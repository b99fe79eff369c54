/-!
Nonnegative floating-point numbers of double precision, in exact arithmetic. All of them
are multiples of `2 ^ (-1074)`, so a number is the count of these units. `nearest` is the
one rounding rule; a product, a quotient and a decimal go through it.
-/

namespace SensorGateway.Decimal

/-- The quotient rounded to a whole number, a half to the even neighbour. -/
def roundEven (num den : Nat) : Nat :=
  if 2 * (num % den) < den ∨ (2 * (num % den) = den ∧ num / den % 2 = 0) then num / den
  else num / den + 1

/-- A nonnegative number of double precision in units of `2 ^ (-1074)`. -/
structure Binary64 where
  units : Nat
  deriving DecidableEq, Repr

namespace Binary64

/-- The number of units in one. -/
def one : Nat := Nat.pow 2 1074

/-- The spacing of the numbers whose whole part has as many bits as the given one: there
are 53 significant bits. -/
def spacing (whole : Nat) : Nat :=
  Nat.pow 2 (Nat.log2 whole + 1 - 53)

/-- The number nearest to a quotient of units, and of two the one with the even
significand. -/
def nearest (num den : Nat) : Binary64 :=
  ⟨roundEven num (den * spacing (num / den)) * spacing (num / den)⟩

def isInfinite (x : Binary64) : Bool :=
  Nat.pow 2 1024 * one ≤ x.units

def ofNat (n : Nat) : Binary64 :=
  nearest (n * one) 1

def mul (x y : Binary64) : Binary64 :=
  nearest (x.units * y.units) one

def div (x y : Binary64) : Binary64 :=
  nearest (x.units * one) y.units

def pow10 (n : Nat) : Binary64 :=
  ofNat (Nat.pow 10 n)

/-- A number divided by `10 ^ n`, in steps of at most 308 powers, each of them rounded. -/
def shrink (x : Binary64) (n : Nat) : Binary64 :=
  if n ≤ 308 then x.div (pow10 n)
  else if x.units = 0 then x
  else (x.div (pow10 308)).shrink (n - 308)
termination_by n

/-- The number for `digits * 10 ^ exponent`: the digits are rounded first and then scaled
by rounded powers of ten. There is none if the number is too large. -/
def ofDecimal? (digits : Nat) (exponent : Int) : Option Binary64 :=
  match exponent with
  | .negSucc n => some ((ofNat digits).shrink (n + 1))
  | .ofNat n =>
    if n ≤ 308 then
      let x := (ofNat digits).mul (pow10 n)
      if x.isInfinite then none else some x
    else if digits = 0 then some ⟨0⟩ else none

end Binary64

end SensorGateway.Decimal
