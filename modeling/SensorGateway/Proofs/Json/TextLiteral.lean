import SensorGateway.Json.TextLiteral

/-!
Written texts are read back. A character is written as itself, as an escape with a letter or
as an escape with four digits, and `readText_writeChar` says that each form stands for the
character; the rest is an induction on the text.
-/

namespace SensorGateway.Json

theorem readEscape_of_ofLetter? {l c : Char} (h : ofLetter? l = some c) (s : List Char) :
    readEscape (l :: s) = .ok (c, s) := by
  unfold readEscape
  split
  · contradiction
  · rename_i heq
    obtain ⟨rfl, -⟩ := List.cons.inj heq
    cases h
  · rename_i heq
    obtain ⟨rfl, rfl⟩ := List.cons.inj heq
    rw [h]

/-- The letter of an escape names the character that it was chosen for. -/
theorem ofLetter?_of_letter? {c l : Char} (h : letter? c = some l) : ofLetter? l = some c := by
  unfold letter? at h
  split at h <;> cases h <;> rfl

theorem readQuad_low {n : Nat} (h : n < 0x100) (s : List Char) :
    readQuad ('0' :: '0' :: Text.Hex.digit (n / 16) :: Text.Hex.digit (n % 16) :: s) =
      .ok (n, s) := by
  have hhigh := Text.Hex.digit?_digit ⟨n / 16, by omega⟩
  have hlow := Text.Hex.digit?_digit ⟨n % 16, by omega⟩
  have hzero : Text.Hex.digit? '0' = some 0 := by decide
  simp only at hhigh hlow
  simp only [readQuad, hzero, hhigh, hlow]
  congr 2
  omega

theorem readEscape_low {c : Char} (h : c.toNat < 0x100) (s : List Char) :
    readEscape ('u' :: '0' :: '0' :: Text.Hex.digit (c.toNat / 16) ::
      Text.Hex.digit (c.toNat % 16) :: s) = .ok (c, s) := by
  have htrailing : isTrailing c.toNat = false := by
    simp only [isTrailing, Bool.and_eq_false_iff, decide_eq_false_iff_not]
    omega
  have hleading : isLeading c.toNat = false := by
    simp only [isLeading, Bool.and_eq_false_iff, decide_eq_false_iff_not]
    omega
  simp [readEscape, readUnits, readQuad_low h, htrailing, hleading]

theorem readText_escape {c : Char} {s rest : List Char} (h : readEscape s = .ok (c, rest)) :
    readText ('\\' :: s) = (readText rest).map fun (cs, rest') => (c :: cs, rest') := by
  rw [readText]
  split
  · rename_i fault he
    rw [h] at he
    cases he
  · rename_i d rest' he
    rw [h] at he
    cases he
    cases readText rest <;> rfl

theorem readText_plain {c : Char} (hquote : c ≠ '"') (hslash : c ≠ '\\') (hlow : ¬c < ' ')
    (s : List Char) :
    readText (c :: s) = (readText s).map fun (cs, rest) => (c :: cs, rest) := by
  rw [readText]
  · rw [if_neg hlow]
    cases readText s <;> rfl
  · exact hquote
  · exact hslash

theorem readText_writeChar (c : Char) (s : List Char) :
    readText (writeChar c ++ s) = (readText s).map fun (cs, rest) => (c :: cs, rest) := by
  unfold writeChar
  split
  · rename_i l hl
    exact readText_escape (readEscape_of_ofLetter? (ofLetter?_of_letter? hl) s)
  · rename_i hnone
    split
    · rename_i hlow
      have hsmall : c.toNat < 0x100 := Nat.lt_trans hlow (by decide)
      exact readText_escape (readEscape_low hsmall s)
    · rename_i hlow
      refine readText_plain ?_ ?_ hlow s
      · rintro rfl
        cases hnone
      · rintro rfl
        cases hnone

/-- Whatever characters a text has, it is read back, up to the quote that ends it. -/
theorem readText_flatMap_writeChar (cs rest : List Char) :
    readText (cs.flatMap writeChar ++ '"' :: rest) = .ok (cs, rest) := by
  induction cs with
  | nil => rw [List.flatMap_nil, List.nil_append, readText]
  | cons c cs ih => rw [List.flatMap_cons, List.append_assoc, readText_writeChar, ih]; rfl

end SensorGateway.Json
