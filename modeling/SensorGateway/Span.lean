import SensorGateway.Word

/-!
Lengths of time, in whole seconds and nanoseconds. The program counts in milliseconds:
`Span.millis` leaves out what is less than one and stops at the largest word.
-/

namespace SensorGateway

structure Span where
  seconds : UInt64
  nanos : Fin 1000000000
  deriving DecidableEq, Repr

namespace Span

def ofSeconds (seconds : UInt64) : Span :=
  ⟨seconds, 0⟩

def ofMillis (millis : Nat) : Span :=
  ⟨UInt64.ofNat (millis / 1000), Fin.ofNat _ (millis % 1000 * 1000000)⟩

/-- A span of seconds and nanoseconds, where whole seconds of the latter are carried over.
There is none if the seconds do not fit 64 bits. -/
def ofParts? (seconds nanos : Nat) : Option Span :=
  let total := seconds + nanos / 1000000000
  if total ≤ maxWord then
    some ⟨UInt64.ofNat total, Fin.ofNat _ (nanos % 1000000000)⟩
  else none

/-- The whole milliseconds of a span, at most `maxWord`. -/
def millis (span : Span) : Nat :=
  min (span.seconds.toNat * 1000 + span.nanos.val / 1000000) maxWord

/-- The instant a span after another, at most the largest one. -/
def after (span : Span) (t : Nat) : Nat :=
  min (t + span.millis) maxWord

end Span

end SensorGateway
