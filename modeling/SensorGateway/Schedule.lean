import SensorGateway.Settings

/-!
When the next reload and the next sweep are due.
-/

namespace SensorGateway

/-- The instants from which on a reload and a sweep are due. -/
structure Schedule where
  nextReload : Nat
  nextSweep : Nat
  deriving DecidableEq, Repr

namespace Schedule

def start (settings : ReloadSettings) (now : Nat) : Schedule :=
  ⟨settings.startDelay.after now, settings.scanInterval.after now⟩

def reloaded (s : Schedule) (settings : ReloadSettings) (now : Nat) : Schedule :=
  { s with nextReload := settings.reloadInterval.after now }

def swept (s : Schedule) (settings : ReloadSettings) (now : Nat) : Schedule :=
  { s with nextSweep := settings.scanInterval.after now }

def reloadDue (s : Schedule) (now : Nat) : Bool :=
  s.nextReload ≤ now

def sweepDue (s : Schedule) (now : Nat) : Bool :=
  s.nextSweep ≤ now

end Schedule

end SensorGateway
