/-!
Numbers that fit words of a fixed number of bits, and how people write them: as decimal
digits, which may have a plus sign in front.
-/

namespace SensorGateway

/-- The largest word of 64 bits. -/
def maxWord : Nat := 18446744073709551615

/-- The largest word of 32 bits. -/
def maxHalfWord : Nat := 4294967295

/-- The largest number among the signed words of 64 bits. -/
def maxSignedWord : Nat := 9223372036854775807

/-- The largest number among the signed words of 32 bits. -/
def maxSignedHalfWord : Nat := 2147483647

namespace Text

def digitValue (c : Char) : Nat :=
  c.toNat - '0'.toNat

def ofDigits (cs : List Char) : Nat :=
  cs.foldl (fun n c => 10 * n + digitValue c) 0

def dropPlus : List Char → List Char
  | '+' :: cs => cs
  | cs => cs

/-- Reads a number that fits a word of 64 bits. -/
def natural? (cs : List Char) : Option Nat :=
  let digits := dropPlus cs
  if digits ≠ [] ∧ digits.all Char.isDigit ∧ ofDigits digits ≤ maxWord then
    some (ofDigits digits)
  else none

end Text

end SensorGateway
