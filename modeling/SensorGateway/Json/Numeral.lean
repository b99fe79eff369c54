import SensorGateway.Json.Reader
import SensorGateway.Word

/-!
Numbers as they are written and the values they have. `Numeral.scan` follows the grammar
and `Numeral.number?` evaluates: a number without point and exponent that fits 64 bits is
exact, every other one is of double precision.
-/

namespace SensorGateway.Json

structure Numeral where
  minus : Bool
  /-- The digits before the point. -/
  whole : List Char
  /-- The digits after the point, none if there is no point. -/
  fraction : List Char
  /-- Whether the exponent has a minus sign, and its digits. -/
  exponent : Option (Bool × List Char)
  deriving DecidableEq, Repr

namespace Numeral

/-- The longest run of digits at the front of a text, and the rest. -/
def digits (s : List Char) : List Char × List Char :=
  (s.takeWhile Char.isDigit, s.dropWhile Char.isDigit)

/-- Reads digits, at least one. A text that is over is a breach of its own. -/
def scanDigits (ended : Breach) (s : List Char) : Except Fault (List Char × List Char) :=
  match digits s with
  | ([], []) => .error (.atEnd ended)
  | ([], rest) => .error (.shownBy .badNumber rest)
  | (ds, rest) => .ok (ds, rest)

/-- Reads the digits before the point: a zero stands alone. -/
def scanWhole (ended : Breach) : List Char → Except Fault (List Char × List Char)
  | '0' :: rest =>
    if (rest.head?.any Char.isDigit) then .error (.shownBy .badNumber rest)
    else .ok (['0'], rest)
  | s => scanDigits ended s

def scanFraction (ended : Breach) : List Char → Except Fault (List Char × List Char)
  | '.' :: rest => scanDigits ended rest
  | s => .ok ([], s)

def exponentSign : List Char → Bool × List Char
  | '+' :: rest => (false, rest)
  | '-' :: rest => (true, rest)
  | s => (false, s)

def scanExponent (ended : Breach) :
    List Char → Except Fault (Option (Bool × List Char) × List Char)
  | [] => .ok (none, [])
  | c :: rest =>
    if c = 'e' ∨ c = 'E' then
      match scanDigits ended (exponentSign rest).2 with
      | .error fault => .error fault
      | .ok (ds, rest') => .ok (some ((exponentSign rest).1, ds), rest')
    else .ok (none, c :: rest)

def scanUnsigned (ended : Breach) (minus : Bool) (s : List Char) :
    Except Fault (Numeral × List Char) :=
  match scanWhole ended s with
  | .error fault => .error fault
  | .ok (whole, s1) =>
    match scanFraction ended s1 with
    | .error fault => .error fault
    | .ok (fraction, s2) =>
      match scanExponent ended s2 with
      | .error fault => .error fault
      | .ok (exponent, s3) => .ok (⟨minus, whole, fraction, exponent⟩, s3)

/-- Reads a number. `ended` is the breach of a text that ends within it. -/
def scan (ended : Breach) : List Char → Except Fault (Numeral × List Char)
  | '-' :: s => scanUnsigned ended true s
  | s => scanUnsigned ended false s

theorem length_of_scanDigits {ended : Breach} {s ds rest : List Char}
    (h : scanDigits ended s = .ok (ds, rest)) : rest.length < s.length := by
  have hsplit : (s.takeWhile Char.isDigit).length + (s.dropWhile Char.isDigit).length =
      s.length := by
    rw [← List.length_append, List.takeWhile_append_dropWhile]
  unfold scanDigits digits at h
  split at h
  · cases h
  · cases h
  · rename_i ds' rest' _ hne heq
    obtain ⟨h1, h2⟩ := Prod.mk.inj heq
    cases h
    rw [h1, h2] at hsplit
    cases ds with
    | nil => exact (hne rfl).elim
    | cons d ds => simp only [List.length_cons] at hsplit; omega

theorem length_of_scanWhole {ended : Breach} {s ds rest : List Char}
    (h : scanWhole ended s = .ok (ds, rest)) : rest.length < s.length := by
  unfold scanWhole at h
  split at h
  · split at h
    · cases h
    · cases h
      simp
  · exact length_of_scanDigits h

theorem length_of_scanFraction {ended : Breach} {s ds rest : List Char}
    (h : scanFraction ended s = .ok (ds, rest)) : rest.length ≤ s.length := by
  unfold scanFraction at h
  split at h
  · have := length_of_scanDigits h
    simp only [List.length_cons]
    omega
  · cases h
    exact Nat.le_refl _

theorem length_exponentSign_le (s : List Char) : (exponentSign s).2.length ≤ s.length := by
  unfold exponentSign
  split <;> simp

theorem length_of_scanExponent {ended : Breach} {s rest : List Char}
    {e : Option (Bool × List Char)} (h : scanExponent ended s = .ok (e, rest)) :
    rest.length ≤ s.length := by
  unfold scanExponent at h
  split at h
  · cases h
    exact Nat.le_refl _
  · rename_i c r
    split at h
    · split at h
      · cases h
      · rename_i ds rest' hd
        cases h
        have h1 := length_of_scanDigits hd
        have h2 := length_exponentSign_le r
        simp only [List.length_cons]
        omega
    · cases h
      exact Nat.le_refl _

theorem length_of_scanUnsigned {ended : Breach} {minus : Bool} {s rest : List Char}
    {n : Numeral} (h : scanUnsigned ended minus s = .ok (n, rest)) :
    rest.length < s.length := by
  unfold scanUnsigned at h
  split at h
  · cases h
  · rename_i whole s1 h1
    split at h
    · cases h
    · rename_i fraction s2 h2
      split at h
      · cases h
      · rename_i exponent s3 h3
        cases h
        have := length_of_scanWhole h1
        have := length_of_scanFraction h2
        have := length_of_scanExponent h3
        omega

theorem length_of_scan {ended : Breach} {s rest : List Char} {n : Numeral}
    (h : scan ended s = .ok (n, rest)) : rest.length < s.length := by
  unfold scan at h
  split at h
  · have := length_of_scanUnsigned h
    simp only [List.length_cons]
    omega
  · exact length_of_scanUnsigned h

/-- Appends digits to a significand as long as it fits a word; the digits from the
first one that does not fit are left over. -/
def absorb (significand : Nat) : List Char → Nat × List Char
  | [] => (significand, [])
  | d :: ds =>
    if 10 * significand + Text.digitValue d ≤ maxWord then
      absorb (10 * significand + Text.digitValue d) ds
    else (significand, d :: ds)

def power (n : Numeral) : Int :=
  match n.exponent with
  | none => 0
  | some (minus, ds) =>
    if minus then -Int.ofNat (Text.ofDigits ds) else Int.ofNat (Text.ofDigits ds)

/-- The value in double precision of the digits that fit a significand, scaled for the
ones that do not; none if it is too large. -/
def real? (n : Numeral) : Option Decimal.Binary64 :=
  let (high, dropped) := absorb 0 n.whole
  let (significand, ignored) := absorb high n.fraction
  let places : Int := n.fraction.length - ignored.length
  Decimal.Binary64.ofDecimal? significand (dropped.length - places + n.power)

def number? (n : Numeral) : Option Number :=
  if n.fraction = [] ∧ n.exponent = none ∧ Text.ofDigits n.whole ≤ maxWord then
    let v := Text.ofDigits n.whole
    if n.minus then
      if 0 < v ∧ v ≤ maxSignedWord + 1 then some (.negative v)
      else some (.real true (.ofNat v))
    else some (.natural v)
  else n.real?.map (.real n.minus)

/-- The digits of an exponent after the one that makes it exceed 31 bits. -/
def beyondPower (e : Nat) : List Char → List Char
  | [] => []
  | d :: ds =>
    if 10 * e + Text.digitValue d ≤ maxSignedHalfWord then
      beyondPower (10 * e + Text.digitValue d) ds
    else ds

/-- The digits that need not be read to see that the number is too large. -/
def unneeded (n : Numeral) : List Char :=
  match n.exponent with
  | none => []
  | some (_, ds) => beyondPower 0 ds

end Numeral

def readNumber (s : List Char) : Except Fault (Number × List Char) :=
  match Numeral.scan .endInValue s with
  | .error fault => .error fault
  | .ok (n, rest) =>
    match n.number? with
    | none => .error (.before .numberTooLarge (n.unneeded ++ rest))
    | some v => .ok (v, rest)

theorem length_of_readNumber {s rest : List Char} {v : Number}
    (h : readNumber s = .ok (v, rest)) : rest.length < s.length := by
  unfold readNumber at h
  split at h
  · cases h
  · rename_i n rest' hs
    split at h
    · cases h
    · cases h
      exact Numeral.length_of_scan hs

end SensorGateway.Json
