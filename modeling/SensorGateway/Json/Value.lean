import SensorGateway.Decimal.Binary64
import SensorGateway.Word

/-!
Values of the interchange format: what a document means, whatever its spelling.
-/

namespace SensorGateway.Json

/-- A number. Whole numbers of up to 64 bits are kept as they are. -/
inductive Number where
  | natural (n : Nat)
  /-- The number `-n`, where `n` is positive. -/
  | negative (n : Nat)
  | real (minus : Bool) (magnitude : Decimal.Binary64)
  deriving DecidableEq, Repr

/-- A value. The members of an object keep their order and may repeat a key. -/
inductive Value where
  | null
  | boolean (b : Bool)
  | number (n : Number)
  | text (cs : List Char)
  | list (items : List Value)
  | object (members : List (List Char × Value))

/-- The member of an object under a key: of several the last one. -/
def Value.member? (key : List Char) : Value → Option Value
  | .object members => (members.reverse.find? fun m => m.1 = key).map (·.2)
  | _ => none

def Value.text? : Value → Option (List Char)
  | .text cs => some cs
  | _ => none

end SensorGateway.Json
