import Mathlib.Data.List.Basic
import SensorGateway.Text.Hex

/-!
Which texts spell bytes. A digit is a sign of the alphabet in either case, and its value is
its place there. `Spells` pairs the digits with the bytes; decoding accepts exactly what
spells something, and what it refuses it refuses for the first sign that is no digit.
-/

namespace SensorGateway.Text.Hex

/-- The sixteen digits in lower case, in the order of their values. -/
def alphabet : List Char :=
  ['0', '1', '2', '3', '4', '5', '6', '7', '8', '9', 'a', 'b', 'c', 'd', 'e', 'f']

def IsDigit (c : Char) : Prop :=
  c.toLower ∈ alphabet

instance (c : Char) : Decidable (IsDigit c) :=
  inferInstanceAs (Decidable (c.toLower ∈ alphabet))

def value (c : Char) : Nat :=
  alphabet.idxOf c.toLower

/-- Digits that spell bytes, two for each of them, the high half first. -/
inductive Spells : List Char → List UInt8 → Prop
  | nil : Spells [] []
  | cons {high low : Char} {b : UInt8} {cs : List Char} {bytes : List UInt8}
      (hhigh : IsDigit high) (hlow : IsDigit low) (hb : b.toNat = 16 * value high + value low)
      (htail : Spells cs bytes) : Spells (high :: low :: cs) (b :: bytes)

/-! ### Digits -/

theorem value_lt {c : Char} (h : IsDigit c) : value c < 16 :=
  List.idxOf_lt_length_iff.2 h

theorem toNat_lt_of_isDigit {c : Char} (h : IsDigit c) : c.toNat < 128 := by
  have hascii : ∀ d ∈ alphabet, d.toNat < 128 := by simp [alphabet]
  have hlower := hascii _ h
  by_contra hlarge
  -- beyond ASCII a character is its own lower case
  have hsame : c.toLower = c := by
    refine dif_neg ?_
    rintro ⟨-, hle⟩
    have : c.toNat ≤ 90 := hle
    omega
  rw [hsame] at hlower
  exact hlarge hlower

theorem digit?_ascii : ∀ n : Fin 128, digit? (Char.ofNat n) =
    if IsDigit (Char.ofNat n) then some (value (Char.ofNat n)) else none := by
  decide

theorem digit?_eq (c : Char) : digit? c = if IsDigit c then some (value c) else none := by
  by_cases hc : c.toNat < 128
  · have h := digit?_ascii ⟨c.toNat, hc⟩
    rwa [Char.ofNat_toNat] at h
  · rw [if_neg fun h => hc (toNat_lt_of_isDigit h)]
    have hlarge : ∀ d : Char, d.toNat < 128 → ¬c ≤ d := fun d hd hle =>
      hc (Nat.lt_of_le_of_lt hle hd)
    rw [digit?, if_neg fun h => hlarge '9' (by decide) h.2,
      if_neg fun h => hlarge 'f' (by decide) h.2, if_neg fun h => hlarge 'F' (by decide) h.2]

theorem digit?_eq_some_iff {c : Char} {n : Nat} :
    digit? c = some n ↔ IsDigit c ∧ value c = n := by
  rw [digit?_eq]
  split <;> simp_all

theorem digit?_eq_none_iff {c : Char} : digit? c = none ↔ ¬IsDigit c := by
  rw [digit?_eq]
  split <;> simp_all

theorem digit_value_ascii : ∀ n : Fin 128, IsDigit (Char.ofNat n) →
    digit (value (Char.ofNat n)) = (Char.ofNat n).toLower := by
  decide

theorem digit_value {c : Char} (h : IsDigit c) : digit (value c) = c.toLower := by
  have hc := digit_value_ascii ⟨c.toNat, toNat_lt_of_isDigit h⟩
  rw [Char.ofNat_toNat] at hc
  exact hc h

/-! ### Spelled bytes -/

theorem Spells.length_eq {cs : List Char} {bytes : List UInt8} (h : Spells cs bytes) :
    cs.length = 2 * bytes.length := by
  induction h with
  | nil => rfl
  | cons _ _ _ _ ih => simp only [List.length_cons, ih]; omega

theorem Spells.isDigit {cs : List Char} {bytes : List UInt8} (h : Spells cs bytes) :
    ∀ c ∈ cs, IsDigit c := by
  induction h with
  | nil => simp
  | cons hhigh hlow _ _ ih =>
      rw [List.forall_mem_cons, List.forall_mem_cons]
      exact ⟨hhigh, hlow, ih⟩

/-- The byte of a number is spelled by the two digits at its place. -/
theorem Spells.toNat_eq {cs : List Char} {bytes : List UInt8} (h : Spells cs bytes) {i : Nat}
    {high low : Char} {b : UInt8} (hhigh : cs[2 * i]? = some high)
    (hlow : cs[2 * i + 1]? = some low) (hb : bytes[i]? = some b) :
    b.toNat = 16 * value high + value low := by
  induction h generalizing i with
  | nil => cases hb
  | cons _ _ hfirst _ ih =>
      cases i with
      | zero =>
          cases hhigh
          cases hlow
          cases hb
          exact hfirst
      | succ i => exact ih hhigh hlow hb

/-- The bytes are written with the same digits in lower case. -/
theorem Spells.encode_eq {cs : List Char} {bytes : List UInt8} (h : Spells cs bytes) :
    encode bytes = cs.map Char.toLower := by
  induction h with
  | nil => rfl
  | cons hhigh hlow hb _ ih =>
      have := value_lt hlow
      rw [encode, hb, ih, List.map_cons, List.map_cons, Nat.mul_add_div (by omega),
        Nat.mul_add_mod, Nat.div_eq_of_lt this, Nat.mod_eq_of_lt this, Nat.add_zero,
        digit_value hhigh, digit_value hlow]

/-! ### Decoding -/

theorem decode_of_spells {cs : List Char} {bytes : List UInt8} (h : Spells cs bytes)
    (place : Nat) : decode place cs = .ok bytes := by
  induction h generalizing place with
  | nil => rfl
  | cons hhigh hlow hb _ ih =>
      rw [decode, digit?_eq_some_iff.2 ⟨hhigh, rfl⟩, digit?_eq_some_iff.2 ⟨hlow, rfl⟩]
      simp only [ih, ← hb, UInt8.ofNat_toNat]
      rfl

/-- What is decoded spells the bytes, if no digit is without a partner. -/
theorem spells_of_decode {place : Nat} {cs : List Char} {bytes : List UInt8}
    (heven : cs.length % 2 = 0) (h : decode place cs = .ok bytes) : Spells cs bytes := by
  fun_induction decode place cs generalizing bytes with
  | case1 => cases h
  | case2 => cases h
  | case3 place high low rest vhigh vlow hlow hhigh ih =>
      obtain ⟨hdigit, rfl⟩ := digit?_eq_some_iff.1 hhigh
      obtain ⟨hdigit', rfl⟩ := digit?_eq_some_iff.1 hlow
      cases hrest : decode (place + 2) rest with
      | error bad =>
          rw [hrest] at h
          cases h
      | ok bytes' =>
          rw [hrest] at h
          cases h
          have := value_lt hdigit
          have := value_lt hdigit'
          refine .cons hdigit hdigit' ?_ (ih ?_ hrest)
          · rw [UInt8.toNat_ofNat', Nat.mod_eq_of_lt (by omega)]
          · simp only [List.length_cons] at heven
            omega
  | case4 cs place hshort =>
      cases h
      cases cs with
      | nil => exact .nil
      | cons high cs =>
          cases cs with
          | nil => cases heven -- a single sign is left over only of an odd number
          | cons low rest => exact absurd rfl (hshort high low rest)

theorem decode_eq_ok_iff {place : Nat} {cs : List Char} {bytes : List UInt8}
    (heven : cs.length % 2 = 0) : decode place cs = .ok bytes ↔ Spells cs bytes :=
  ⟨spells_of_decode heven, fun h => decode_of_spells h place⟩

/-- What is refused holds a sign that is no digit, and the first such sign is named. -/
theorem exists_of_decode_eq_error {place : Nat} {cs : List Char} {bad : BadDigit}
    (h : decode place cs = .error bad) :
    ∃ before after, cs = before ++ bad.found :: after ∧ (∀ c ∈ before, IsDigit c) ∧
      ¬IsDigit bad.found ∧ bad.place = place + before.length := by
  fun_induction decode place cs with
  | case1 place high low rest hhigh =>
      cases h
      exact ⟨[], low :: rest, rfl, by simp, digit?_eq_none_iff.1 hhigh, rfl⟩
  | case2 place high low rest v hlow hhigh =>
      cases h
      refine ⟨[high], rest, rfl, ?_, digit?_eq_none_iff.1 hlow, rfl⟩
      exact List.forall_mem_singleton.2 (digit?_eq_some_iff.1 hhigh).1
  | case3 place high low rest vhigh vlow hlow hhigh ih =>
      cases hrest : decode (place + 2) rest with
      | ok bytes =>
          rw [hrest] at h
          cases h
      | error bad' =>
          rw [hrest] at h
          cases h
          obtain ⟨before, after, rfl, hbefore, hbad, hplace⟩ := ih hrest
          refine ⟨high :: low :: before, after, rfl, ?_, hbad, ?_⟩
          · rw [List.forall_mem_cons, List.forall_mem_cons]
            exact ⟨(digit?_eq_some_iff.1 hhigh).1, (digit?_eq_some_iff.1 hlow).1, hbefore⟩
          · rw [hplace, List.length_cons, List.length_cons]
            omega
  | case4 => cases h

/-- An even number of digits spells bytes. -/
theorem exists_spells {cs : List Char} (heven : cs.length % 2 = 0)
    (hdigits : ∀ c ∈ cs, IsDigit c) : ∃ bytes, Spells cs bytes := by
  cases hdec : decode 0 cs with
  | ok bytes => exact ⟨bytes, spells_of_decode heven hdec⟩
  | error bad =>
      obtain ⟨before, after, hcs, -, hbad, -⟩ := exists_of_decode_eq_error hdec
      exact absurd (hdigits bad.found (by rw [hcs]; simp)) hbad

end SensorGateway.Text.Hex
