import SensorGateway.Measurement

/-!
What becomes of a measurement that is submitted.
-/

namespace SensorGateway

/-- The outcome for one measurement. -/
inductive Admission where
  /-- The payload waits in the buffer. -/
  | admitted
  /-- The sensor is barred, or nobody can tell which one it is. -/
  | rejected
  /-- The sensor is not known yet; the measurement is handed back. -/
  | deferred (m : Measurement)
  /-- The buffer is full; the measurement is handed back. -/
  | overflow (m : Measurement)
  deriving DecidableEq, Repr

namespace Admission

/-- The measurement that is handed back for being of an unknown sensor. -/
def deferred? : Admission → Option Measurement
  | .deferred m => some m
  | _ => none

/-- The measurement that is handed back for want of room. -/
def overflow? : Admission → Option Measurement
  | .overflow m => some m
  | _ => none

end Admission

/-- The outcome for several measurements, those handed back in the order of submission. -/
structure BatchOutcome where
  admitted : Nat
  rejected : Nat
  deferred : List Measurement
  overflowed : List Measurement
  deriving DecidableEq, Repr

namespace BatchOutcome

def ofAdmissions (outcomes : List Admission) : BatchOutcome where
  admitted := outcomes.count .admitted
  rejected := outcomes.count .rejected
  deferred := outcomes.filterMap Admission.deferred?
  overflowed := outcomes.filterMap Admission.overflow?

def total (o : BatchOutcome) : Nat :=
  o.admitted + o.rejected + o.deferred.length + o.overflowed.length

end BatchOutcome

end SensorGateway
