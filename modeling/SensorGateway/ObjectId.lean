import SensorGateway.Text.Hex
import SensorGateway.Text.Quoted

/-!
Identifiers of sensors: twelve bytes, written as twenty-four hexadecimal digits. Digits of
either case are read, lower case is written, and `parse_display` says that a written
identifier is read back.
-/

namespace SensorGateway

/-- The identifier of a sensor. -/
structure ObjectId where
  bytes : List UInt8
  length_bytes : bytes.length = 12
  deriving DecidableEq, Repr

namespace ObjectId

inductive Refusal where
  /-- The text has a wrong number of bytes. -/
  | length (found : Nat)
  /-- A byte of the text, shown as the character of its number, is no digit. -/
  | digit (bad : Text.Hex.BadDigit)
  deriving DecidableEq, Repr

def Refusal.reason : Refusal → String
  | .length found => "expected 24 hex characters, got " ++ toString found
  | .digit bad =>
    "Invalid character " ++ Text.quotedChar bad.found ++ " at position " ++ toString bad.place

/-- The bytes of a text, each as the character of its number. -/
def units (text : String) : List Char :=
  (text.toList.flatMap String.utf8EncodeChar).map Char.ofUInt8

/-- Reads an identifier. The length is judged first, then the digits from left to right. -/
def parse (text : String) : Except Refusal ObjectId :=
  if hlen : (units text).length = 24 then
    match hdec : Text.Hex.decode 0 (units text) with
    | .ok bytes => .ok ⟨bytes, by rw [Text.Hex.length_of_decode hdec, hlen]⟩
    | .error bad => .error (.digit bad)
  else .error (.length (units text).length)

/-- The identifier in lower-case digits. -/
def display (id : ObjectId) : String :=
  String.ofList (Text.Hex.encode id.bytes)

def zero : ObjectId :=
  ⟨List.replicate 12 0, rfl⟩

instance : Inhabited ObjectId := ⟨zero⟩

def ofBytes? (bytes : List UInt8) : Option ObjectId :=
  if h : bytes.length = 12 then some ⟨bytes, h⟩ else none

/-- Identifiers are ordered as their bytes are, the first byte counting most. -/
def le (a b : ObjectId) : Bool :=
  decide (a.bytes ≤ b.bytes)

end ObjectId

end SensorGateway
