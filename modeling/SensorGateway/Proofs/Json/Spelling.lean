import SensorGateway.Proofs.Json.TextLiteral
import SensorGateway.Proofs.Json.Tree

/-!
Texts are read piece by piece. Pieces that stand for characters are read as these, up to the
quote that ends them, and whatever is read was written in pieces. Only an escape for half of
a pair is not a matter of one piece: it takes the one after it.
-/

namespace SensorGateway.Json

/-! ### Escapes -/

theorem ofLetter?_eq_some_iff {l c : Char} : ofLetter? l = some c ↔ (l, c) ∈ escapes := by
  constructor
  · intro h
    unfold ofLetter? at h
    split at h <;> cases h <;> decide
  · intro h
    simp only [escapes, List.mem_cons, Prod.mk.injEq, List.not_mem_nil, or_false] at h
    rcases h with ⟨rfl, rfl⟩ | ⟨rfl, rfl⟩ | ⟨rfl, rfl⟩ | ⟨rfl, rfl⟩ | ⟨rfl, rfl⟩ | ⟨rfl, rfl⟩ |
      ⟨rfl, rfl⟩ | ⟨rfl, rfl⟩
    all_goals rfl

theorem readQuad_written (a b c d : HexDigit) (s : List Char) :
    readQuad (a.char :: b.char :: c.char :: d.char :: s) = .ok (Piece.number a b c d, s) := by
  have hdigit : ∀ e : HexDigit, Text.Hex.digit? e.char = some (Text.Hex.value e.char) :=
    fun e => Text.Hex.digit?_eq_some_iff.2 ⟨e.isDigit, rfl⟩
  simp only [readQuad, hdigit, Piece.number]

theorem written_of_readQuad {s rest : List Char} {n : Nat} (h : readQuad s = .ok (n, rest)) :
    ∃ a b c d : HexDigit, Piece.number a b c d = n ∧
      s = a.char :: b.char :: c.char :: d.char :: rest := by
  unfold readQuad at h
  dsimp only at h
  split at h
  · rename_i a b c d rest'
    split at h
    · rename_i va vb vc vd ha hb hc hd
      obtain ⟨hdigitA, rfl⟩ := Text.Hex.digit?_eq_some_iff.1 ha
      obtain ⟨hdigitB, rfl⟩ := Text.Hex.digit?_eq_some_iff.1 hb
      obtain ⟨hdigitC, rfl⟩ := Text.Hex.digit?_eq_some_iff.1 hc
      obtain ⟨hdigitD, rfl⟩ := Text.Hex.digit?_eq_some_iff.1 hd
      cases h
      exact ⟨⟨a, hdigitA⟩, ⟨b, hdigitB⟩, ⟨c, hdigitC⟩, ⟨d, hdigitD⟩, by rw [Piece.number], rfl⟩
    · split at h <;> cases h
  · split at h <;> cases h

/-- A unit that is no half of a pair stands for a character. -/
theorem characters?_unit {a b c d : HexDigit} (htrailing : ¬isTrailing (Piece.number a b c d))
    (hleading : ¬isLeading (Piece.number a b c d)) (later : List Piece) :
    characters? (.unit a b c d :: later) =
      (characters? later).map (Char.ofNat (Piece.number a b c d) :: ·) := by
  cases later with
  | nil => simp [characters?, htrailing, hleading]
  | cons piece later => cases piece <;> simp [characters?, htrailing, hleading]

/-- Pieces that together are an escape for a character. -/
def Escapes (pieces : List Piece) (c : Char) : Prop :=
  ∀ later, characters? (pieces ++ later) = (characters? later).map (c :: ·)

theorem written_of_readTrailing {a b c d : HexDigit} {s rest : List Char} {ch : Char}
    (hleading : isLeading (Piece.number a b c d) = true)
    (htrailing : isTrailing (Piece.number a b c d) = false)
    (h : readTrailing (Piece.number a b c d) s = .ok (ch, rest)) :
    ∃ e f g i : HexDigit, Escapes [.unit a b c d, .unit e f g i] ch ∧
      s = (Piece.unit e f g i).written ++ rest := by
  unfold readTrailing at h
  split at h
  · cases h
  · cases h
  · split at h
    · cases h
    · rename_i n rest' hquad
      split at h
      · rename_i hsecond
        obtain ⟨e, f, g, i, rfl, rfl⟩ := written_of_readQuad hquad
        obtain ⟨hch, hrest⟩ := Prod.mk.inj (Except.ok.inj h)
        subst hch
        subst hrest
        refine ⟨e, f, g, i, fun later => ?_, rfl⟩
        simp [characters?, hleading, htrailing, hsecond]
      · cases h
  · cases h
  · cases h

/-- An escape is a letter, or four digits, or twice four digits for a pair. -/
theorem written_of_readEscape {s rest : List Char} {ch : Char}
    (h : readEscape s = .ok (ch, rest)) :
    ∃ pieces, Escapes pieces ch ∧ '\\' :: s = pieces.flatMap Piece.written ++ rest := by
  unfold readEscape at h
  split at h
  · cases h
  · unfold readUnits at h
    split at h
    · cases h
    · rename_i n rest' hquad
      obtain ⟨a, b, c, d, rfl, rfl⟩ := written_of_readQuad hquad
      split at h
      · cases h
      · rename_i htrailing
        rw [Bool.not_eq_true] at htrailing
        -- the first half of a pair, or a unit of its own
        split at h
        · rename_i hleading
          obtain ⟨e, f, g, i, hescapes, rfl⟩ := written_of_readTrailing hleading htrailing h
          exact ⟨_, hescapes, rfl⟩
        · rename_i hleading
          obtain ⟨hch, hrest⟩ := Prod.mk.inj (Except.ok.inj h)
          subst hch
          subst hrest
          refine ⟨[.unit a b c d], fun later => ?_, rfl⟩
          exact characters?_unit (by rw [htrailing]; exact Bool.false_ne_true) hleading later
  · rename_i l s' _
    split at h
    · rename_i c hletter
      obtain ⟨rfl, rfl⟩ := Prod.mk.inj (Except.ok.inj h)
      exact ⟨[.letter l c (ofLetter?_eq_some_iff.1 hletter)], fun later => rfl, rfl⟩
    · cases h

/-! ### Texts -/

theorem readEscape_unit {a b c d : HexDigit} (htrailing : ¬isTrailing (Piece.number a b c d))
    (hleading : ¬isLeading (Piece.number a b c d)) (s : List Char) :
    readEscape ('u' :: a.char :: b.char :: c.char :: d.char :: s) =
      .ok (Char.ofNat (Piece.number a b c d), s) := by
  simp only [readEscape, readUnits, readQuad_written]
  rw [if_neg htrailing, if_neg hleading]

theorem readEscape_pair {a b c d a' b' c' d' : HexDigit}
    (htrailing : ¬isTrailing (Piece.number a b c d)) (hleading : isLeading (Piece.number a b c d))
    (hsecond : isTrailing (Piece.number a' b' c' d')) (s : List Char) :
    readEscape ('u' :: a.char :: b.char :: c.char :: d.char :: '\\' :: 'u' :: a'.char :: b'.char ::
      c'.char :: d'.char :: s) =
      .ok (ofPair (Piece.number a b c d) (Piece.number a' b' c' d'), s) := by
  simp only [readEscape, readUnits, readQuad_written]
  rw [if_neg htrailing, if_pos hleading]
  simp only [readTrailing, readQuad_written]
  rw [if_pos hsecond]

theorem readText_written {pieces : List Piece} {cs : List Char}
    (h : characters? pieces = some cs) (rest : List Char) :
    readText (pieces.flatMap Piece.written ++ '"' :: rest) = .ok (cs, rest) := by
  fun_induction characters? pieces generalizing cs with
  | case1 => 
    cases h
    rw [List.flatMap_nil, List.nil_append, readText]
  | case2 c hplain pieces ih =>
    obtain ⟨cs, hcs, rfl⟩ := Option.map_eq_some_iff.1 h
    have hread := readText_plain hplain.1 hplain.2.1 hplain.2.2
      (pieces.flatMap Piece.written ++ '"' :: rest)
    rwa [ih hcs] at hread
  | case3 l c hletter pieces ih =>
    obtain ⟨cs, hcs, rfl⟩ := Option.map_eq_some_iff.1 h
    have hread := readText_escape
      (readEscape_of_ofLetter? (ofLetter?_eq_some_iff.2 hletter)
        (pieces.flatMap Piece.written ++ '"' :: rest))
    rwa [ih hcs] at hread
  | case4 => cases h
  | case5 a b c d htrailing hleading a' b' c' d' pieces hsecond ih =>
    obtain ⟨cs, hcs, rfl⟩ := Option.map_eq_some_iff.1 h
    have hread := readText_escape
      (readEscape_pair htrailing hleading hsecond (pieces.flatMap Piece.written ++ '"' :: rest))
    rwa [ih hcs] at hread
  | case6 => cases h
  | case7 => cases h
  | case8 a b c d pieces htrailing hleading ih =>
    obtain ⟨cs, hcs, rfl⟩ := Option.map_eq_some_iff.1 h
    have hread := readText_escape
      (readEscape_unit htrailing hleading (pieces.flatMap Piece.written ++ '"' :: rest))
    rwa [ih hcs] at hread

theorem written_of_readText {s cs rest : List Char} (h : readText s = .ok (cs, rest)) :
    ∃ pieces, characters? pieces = some cs ∧
      s = pieces.flatMap Piece.written ++ '"' :: rest := by
  fun_induction readText s generalizing cs rest with
  | case1 => cases h
  | case2 s =>
      cases h
      exact ⟨[], rfl, rfl⟩
  | case3 => cases h
  | case4 => cases h
  | case5 s c r he cs' rest' hr ih =>
      cases h
      obtain ⟨escape, hescapes, hs⟩ := written_of_readEscape he
      obtain ⟨pieces, hpieces, rfl⟩ := ih hr
      refine ⟨escape ++ pieces, by rw [hescapes, hpieces]; rfl, ?_⟩
      rw [hs, List.flatMap_append, List.append_assoc]
  | case6 => cases h
  | case7 => cases h
  | case8 c s hquote hslash hlow cs' rest' hr ih =>
      cases h
      obtain ⟨pieces, hpieces, rfl⟩ := ih hr
      refine ⟨.plain c ⟨hquote, hslash, hlow⟩ :: pieces, ?_, ?_⟩
      · simp [characters?, hpieces]
      · simp [Piece.written]

end SensorGateway.Json
