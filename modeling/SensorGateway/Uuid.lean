import SensorGateway.Text.Hex

/-!
Universally unique identifiers: sixteen bytes, written as five groups of digits with
hyphens between them. The text may also be one group, stand in braces or carry the name
space `urn:uuid:`.
-/

namespace SensorGateway

/-- An identifier of a user or of a batch. -/
structure Uuid where
  bytes : List UInt8
  length_bytes : bytes.length = 16
  deriving DecidableEq, Repr

namespace Uuid

/-- The number of digits in each group. -/
def groups : List Nat := [8, 4, 4, 4, 12]

def hyphenate : List Nat → List Char → List Char
  | [], cs => cs
  | [_], cs => cs
  | n :: ns, cs => cs.take n ++ '-' :: hyphenate ns (cs.drop n)

/-- Takes the hyphens out again, if the groups have the given sizes. -/
def unhyphenate? : List Nat → List Char → Option (List Char)
  | [], cs => if cs = [] then some [] else none
  | [n], cs => if cs.length = n then some cs else none
  | n :: ns, cs =>
    match cs.drop n with
    | '-' :: rest => (unhyphenate? ns rest).map (cs.take n ++ ·)
    | _ => none

def ofDigits? (digits : List Char) : Option Uuid :=
  if hlen : digits.length = 32 then
    match hdec : Text.Hex.decode 0 digits with
    | .ok bytes => some ⟨bytes, by rw [Text.Hex.length_of_decode hdec, hlen]⟩
    | .error _ => none
  else none

/-- The digits of a text in one of the accepted forms. -/
def digits? (cs : List Char) : Option (List Char) :=
  if cs.length = 32 then some cs
  else if cs.length = 36 then unhyphenate? groups cs
  else if cs.length = 38 ∧ cs.head? = some '\x7b' ∧ cs.getLast? = some '\x7d' then
    unhyphenate? groups (cs.drop 1).dropLast
  else if cs.length = 45 ∧ (cs.take 9).map Char.toLower = "urn:uuid:".toList then
    unhyphenate? groups (cs.drop 9)
  else none

/-- Reads an identifier in one of the accepted forms, with digits of either case. -/
def parse? (text : String) : Option Uuid :=
  (digits? text.toList).bind ofDigits?

def display (id : Uuid) : String :=
  String.ofList (hyphenate groups (Text.Hex.encode id.bytes))

/-- Identifiers are ordered as their bytes are, the first byte counting most. -/
def le (a b : Uuid) : Bool :=
  decide (a.bytes ≤ b.bytes)

end Uuid

end SensorGateway
