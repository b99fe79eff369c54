import Mathlib.Data.List.DropRight
import Mathlib.Data.Nat.Digits.Defs
import SensorGateway.Text.Ranges
import SensorGateway.Word

/-!
Numbers as they are written: with decimal digits, after a plus sign or none. The reader accepts
these texts and no others, and after trimming the same with blanks around them.
-/

namespace SensorGateway

namespace Text

/-- A number of 64 bits as it is written: decimal digits, with a plus sign in front or none. -/
def WritesNumber (cs : List Char) (n : Nat) : Prop :=
  ∃ digits, (cs = digits ∨ cs = '+' :: digits) ∧ digits ≠ [] ∧
    (∀ c ∈ digits, c.isDigit = true) ∧ Nat.ofDigits 10 (digits.reverse.map digitValue) = n ∧
    n < 2 ^ 64

/-- The same with blanks in front of it and behind it. -/
def WritesPaddedNumber (cs : List Char) (n : Nat) : Prop :=
  ∃ before number after, cs = before ++ number ++ after ∧ (∀ c ∈ before, isBlank c = true) ∧
    (∀ c ∈ after, isBlank c = true) ∧ WritesNumber number n

theorem WritesPaddedNumber.lt {cs : List Char} {n : Nat} (h : WritesPaddedNumber cs n) :
    n < 2 ^ 64 := by
  obtain ⟨-, -, -, -, -, -, -, -, -, -, -, hlt⟩ := h
  exact hlt

theorem ofDigits_eq_natOfDigits (cs : List Char) :
    ofDigits cs = Nat.ofDigits 10 (cs.reverse.map digitValue) := by
  rw [Nat.ofDigits_eq_foldr, List.foldr_map, List.foldr_reverse, ofDigits]
  congr 1
  funext n c
  exact Nat.add_comm _ _

theorem dropPlus_eq_iff {cs digits : List Char} (hdigits : ∀ c ∈ digits, c.isDigit = true) :
    dropPlus cs = digits ↔ cs = digits ∨ cs = '+' :: digits := by
  unfold dropPlus
  split
  · rename_i rest
    refine ⟨fun h => .inr (by rw [h]), ?_⟩
    rintro (h | h)
    · -- a sign is no digit
      exact absurd (hdigits '+' (h ▸ List.mem_cons_self)) (by decide)
    · exact (List.cons.inj h).2
  · rename_i hno
    refine ⟨.inl, ?_⟩
    rintro (h | h)
    · exact h
    · exact absurd h (hno digits)

/-- Reading a number accepts what writes one, and nothing else. -/
theorem natural?_eq_some_iff {cs : List Char} {n : Nat} :
    natural? cs = some n ↔ WritesNumber cs n := by
  have hbound : ∀ m, m ≤ maxWord ↔ m < 2 ^ 64 := by
    intro m
    unfold maxWord
    omega
  rw [natural?]
  constructor
  · intro h
    split at h
    · rename_i hread
      obtain ⟨hne, hdigits, hle⟩ := hread
      have hall := List.all_eq_true.1 hdigits
      obtain rfl := Option.some.inj h
      exact ⟨dropPlus cs, (dropPlus_eq_iff hall).1 rfl, hne, hall,
        (ofDigits_eq_natOfDigits _).symm, (hbound _).1 hle⟩
    · cases h
  · rintro ⟨digits, hcs, hne, hall, hvalue, hlt⟩
    have hdrop : dropPlus cs = digits := (dropPlus_eq_iff hall).2 hcs
    have hnumber : ofDigits digits = n := (ofDigits_eq_natOfDigits digits).trans hvalue
    rw [hdrop, hnumber]
    exact if_pos ⟨hne, List.all_eq_true.2 hall, (hbound n).2 hlt⟩

/-! ### Blanks -/

theorem isBlank_of_isDigit {c : Char} (h : c.isDigit = true) : isBlank c = false := by
  have hbounds : 48 ≤ c.toNat ∧ c.toNat ≤ 57 := Char.isDigit_iff_toNat.1 h
  simp only [isBlank, blankRanges, Ranges.contains, List.any_cons, List.any_nil]
  simp
  omega

theorem WritesNumber.isBlank {cs : List Char} {n : Nat} (h : WritesNumber cs n) :
    cs ≠ [] ∧ ∀ c ∈ cs, isBlank c = false := by
  obtain ⟨digits, rfl | rfl, hne, hall, -, -⟩ := h
  · exact ⟨hne, fun c hc => isBlank_of_isDigit (hall c hc)⟩
  · refine ⟨List.cons_ne_nil _ _, List.forall_mem_cons.2 ⟨by decide, ?_⟩⟩
    exact fun c hc => isBlank_of_isDigit (hall c hc)

/-- Blanks are in front of what is left of them, and behind it. -/
theorem exists_blanks_trim (cs : List Char) :
    ∃ before after, cs = before ++ trim cs ++ after ∧ (∀ c ∈ before, isBlank c = true) ∧
      ∀ c ∈ after, isBlank c = true := by
  refine ⟨cs.takeWhile isBlank, (cs.dropWhile isBlank).rtakeWhile isBlank, ?_, ?_, ?_⟩
  · have htrim : trim cs = (cs.dropWhile isBlank).rdropWhile isBlank := rfl
    rw [htrim, List.append_assoc, List.rdropWhile_append_rtakeWhile,
      List.takeWhile_append_dropWhile]
  · exact fun c hc => List.mem_takeWhile_imp hc
  · exact fun c hc => List.mem_rtakeWhile_imp hc

theorem dropWhile_isBlank {blanks rest : List Char} (hblanks : ∀ c ∈ blanks, isBlank c = true)
    (hrest : ∀ c ∈ rest.head?, isBlank c = false) :
    (blanks ++ rest).dropWhile isBlank = rest := by
  rw [List.dropWhile_append_of_pos hblanks]
  cases rest with
  | nil => rfl
  | cons c rest => exact List.dropWhile_cons_of_neg (by simp [hrest c rfl])

theorem trim_append {before number after : List Char} (hne : number ≠ [])
    (hnumber : ∀ c ∈ number, isBlank c = false) (hbefore : ∀ c ∈ before, isBlank c = true)
    (hafter : ∀ c ∈ after, isBlank c = true) : trim (before ++ number ++ after) = number := by
  have hfront : (before ++ (number ++ after)).dropWhile isBlank = number ++ after := by
    refine dropWhile_isBlank hbefore fun c hc => hnumber c ?_
    rw [List.head?_append_of_ne_nil _ hne] at hc
    exact List.mem_of_head? hc
  have hback : (after.reverse ++ number.reverse).dropWhile isBlank = number.reverse := by
    refine dropWhile_isBlank (fun c hc => hafter c (List.mem_reverse.1 hc)) fun c hc => ?_
    exact hnumber c (List.mem_reverse.1 (List.mem_of_head? hc))
  rw [trim, List.append_assoc, hfront, List.reverse_append, hback, List.reverse_reverse]

/-- With blanks around it allowed, too, nothing else is accepted. -/
theorem natural?_trim_eq_some_iff {cs : List Char} {n : Nat} :
    natural? (trim cs) = some n ↔ WritesPaddedNumber cs n := by
  rw [natural?_eq_some_iff]
  constructor
  · intro h
    obtain ⟨before, after, hcs, hbefore, hafter⟩ := exists_blanks_trim cs
    exact ⟨before, trim cs, after, hcs, hbefore, hafter, h⟩
  · rintro ⟨before, number, after, rfl, hbefore, hafter, h⟩
    obtain ⟨hne, hnumber⟩ := h.isBlank
    rwa [trim_append hne hnumber hbefore hafter]

/-- What blanks around a number change: without them both ways to write one agree. -/
theorem writesNumber_iff {cs : List Char} {n : Nat} :
    WritesNumber cs n ↔ trim cs = cs ∧ WritesPaddedNumber cs n := by
  constructor
  · intro h
    obtain ⟨hne, hnumber⟩ := h.isBlank
    have htrim : trim cs = cs := by
      simpa using @trim_append [] cs [] hne hnumber nofun nofun
    exact ⟨htrim, natural?_trim_eq_some_iff.1 (htrim.symm ▸ natural?_eq_some_iff.2 h)⟩
  · rintro ⟨htrim, h⟩
    exact natural?_eq_some_iff.1 (htrim ▸ natural?_trim_eq_some_iff.2 h)

end Text

end SensorGateway
