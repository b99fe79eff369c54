import SensorGateway.Span

/-!
The clock of the gateway. An instant is a number of milliseconds, plainly a natural number;
the clock holds it in a 64-bit word and wraps around. A clock may move on by itself with each
reading, every time by another span; so what it shows at one reading says nothing about the
next one.
-/

namespace SensorGateway

/-- What a clock shows, and by how much it is moved by being read. -/
structure Clock where
  time : UInt64
  /-- By how much a reading moves it when no other step is due. -/
  tick : UInt64 := 0
  /-- By how much each of the next readings moves it. -/
  steps : List UInt64 := []
  deriving DecidableEq, Repr

namespace Clock

def now (clock : Clock) : Nat :=
  clock.time.toNat

def afterReading (clock : Clock) : Clock :=
  { clock with
    time := clock.time + clock.steps.headD clock.tick
    steps := clock.steps.tail }

def advance (clock : Clock) (span : Span) : Clock :=
  { clock with time := clock.time + UInt64.ofNat span.millis }

def set (clock : Clock) (t : Nat) : Clock :=
  { clock with time := UInt64.ofNat t }

/-- What a person does to the clock. -/
inductive Move where
  | advance (span : Span)
  | set (t : Nat)
  deriving DecidableEq, Repr

def move (clock : Clock) : Move → Clock
  | .advance span => clock.advance span
  | .set t => clock.set t

/-- The instants that a clock shows before and after each of the moves. -/
def shown (clock : Clock) : List Move → List Nat
  | [] => [clock.now]
  | m :: ms => clock.now :: (clock.move m).shown ms

end Clock

end SensorGateway
