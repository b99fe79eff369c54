import SensorGateway.Decimal.Binary64

/-!
The shortest decimal for a number of double precision: of the decimals that round to the
number, one with the fewest digits, and of those the nearest. As text it always has a point
or an exponent in sight, so that it does not read as a whole number.
-/

namespace SensorGateway.Decimal

/-- The decimal `digits * 10 ^ exponent`. -/
structure Scientific where
  digits : Nat
  exponent : Int
  deriving DecidableEq, Repr

namespace Binary64

/-- A point `digits * 10 ^ exponent` in quarters of a unit, as a quotient. -/
def quarters (digits : Nat) (exponent : Int) : Nat × Nat :=
  (digits * Nat.pow 10 exponent.toNat * (4 * one), Nat.pow 10 (-exponent).toNat)

/-- Whether a point rounds to the number. The halves between neighbours belong to the
number whose significand is even, and below a power of two the spacing is half as wide. -/
def rounds (x : Binary64) (digits : Nat) (exponent : Int) : Bool :=
  let (num, den) := quarters digits exponent
  let gap := spacing x.units
  let below := if x.units = Nat.pow 2 52 * gap ∧ 1 < gap then gap else 2 * gap
  let low := (4 * x.units - below) * den
  let high := (4 * x.units + 2 * gap) * den
  if x.units / gap % 2 = 0 then low ≤ num && num ≤ high else low < num && num < high

/-- The distance of a point from the number, times a factor that depends on the exponent
only. -/
def distance (x : Binary64) (digits : Nat) (exponent : Int) : Nat :=
  let (num, den) := quarters digits exponent
  (num - 4 * x.units * den) + (4 * x.units * den - num)

/-- The better of the two neighbours of the number among the multiples of a power of ten,
if one rounds to it. -/
def onGrid? (x : Binary64) (exponent : Int) : Option Scientific :=
  let (num, den) := quarters 1 exponent
  let d := 4 * x.units * den / num
  match x.rounds d exponent, x.rounds (d + 1) exponent with
  | false, false => none
  | true, false => some ⟨d, exponent⟩
  | false, true => some ⟨d + 1, exponent⟩
  | true, true =>
    let near := x.distance d exponent
    let far := x.distance (d + 1) exponent
    some (if near < far ∨ (near = far ∧ d % 2 = 0) then ⟨d, exponent⟩ else ⟨d + 1, exponent⟩)

/-- The coarsest of the grids from `10 ^ (steps - 343)` down that has a decimal for the
number. -/
def searchGrids (x : Binary64) : (steps : Nat) → Scientific
  | 0 => ⟨0, 0⟩
  | steps + 1 =>
    match x.onGrid? (Int.ofNat steps - 342) with
    | some found => found
    | none => x.searchGrids steps

def shortest (x : Binary64) : Scientific :=
  if x.units = 0 then ⟨0, 0⟩ else x.searchGrids 652

end Binary64

/-- The decimal exponent of the first digit. -/
def Scientific.magnitude (x : Scientific) : Int :=
  x.exponent + (Nat.toDigits 10 x.digits).length - 1

/-- From `10 ^ (-5)` up to below `10 ^ 16` a decimal is written out, with at least one place;
others have one digit before the point and an exponent with its sign. -/
def Scientific.render (x : Scientific) : List Char :=
  let ds := Nat.toDigits 10 x.digits
  let m := x.magnitude
  if x.digits = 0 then ['0', '.', '0']
  else if 0 ≤ m ∧ m < 16 then
    if x.exponent < 0 then
      ds.take (m.toNat + 1) ++ '.' :: ds.drop (m.toNat + 1)
    else ds ++ List.replicate x.exponent.toNat '0' ++ ['.', '0']
  else if -5 ≤ m ∧ m < 0 then
    ['0', '.'] ++ List.replicate (-m - 1).toNat '0' ++ ds
  else
    let tail := ds.drop 1
    ds.take 1 ++ (if tail = [] then [] else '.' :: tail) ++
      'e' :: (if m < 0 then '-' else '+') :: Nat.toDigits 10 m.natAbs

end SensorGateway.Decimal
