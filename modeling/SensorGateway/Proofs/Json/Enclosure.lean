import SensorGateway.Proofs.Json.Numeral
import SensorGateway.Wire.Codec

/-!
Items between brackets are read back. `Reader.Takes` says that a reader takes a value off the
front of a text whatever follows it; if items take one state to another in this way, so does
the loop over them. In the other direction, what every item keeps is kept by the loop.
-/

namespace SensorGateway.Json

/-- What may follow a value: nothing, a comma or a closing bracket. -/
def Ends (rest : List Char) : Prop :=
  ∀ c ∈ rest.head?, c = ',' ∨ c = ']' ∨ c = '\x7d'

/-- What a value may start with: a sign that closes no bracket. -/
def Opens (text : List Char) : Prop :=
  ∃ c r, text = c :: r ∧ isBlank c = false ∧ c ≠ ']' ∧ c ≠ '\x7d'

/-- A reader takes a value off the front of a text, whatever may follow. -/
structure Reader.Takes {α : Type} (reader : Reader α) (text : List Char) (a : α) : Prop where
  opens : Opens text
  run_append : ∀ rest, Ends rest → reader.run (text ++ rest) = .ok (a, rest)

theorem ends_nil : Ends [] := by
  simp [Ends]

theorem ends_comma (s : List Char) : Ends (',' :: s) := by
  simp [Ends]

theorem skipBlanks_cons {c : Char} (h : isBlank c = false) (s : List Char) :
    skipBlanks (c :: s) = c :: s := by
  rw [skipBlanks, List.dropWhile_cons_of_neg (by simp [h])]

theorem Opens.append {text : List Char} (h : Opens text) (rest : List Char) :
    Opens (text ++ rest) := by
  obtain ⟨c, r, rfl, hc⟩ := h
  exact ⟨c, r ++ rest, rfl, hc⟩

theorem Opens.skipBlanks_eq {text : List Char} (h : Opens text) : skipBlanks text = text := by
  obtain ⟨c, r, rfl, hblank, -⟩ := h
  exact skipBlanks_cons hblank r

theorem endsNumber_of_ends {rest : List Char} (h : Ends rest) : EndsNumber rest := by
  intro c hc
  rcases h c hc with rfl | rfl | rfl <;> decide

/-- A digit is neither a blank nor a closing bracket. -/
theorem opens_of_isDigit {d : Char} (hd : d.isDigit = true) (ds : List Char) :
    Opens (d :: ds) := by
  refine ⟨d, ds, rfl, ?_, ?_, ?_⟩
  · rw [Bool.eq_false_iff]
    intro hblank
    simp only [isBlank, Bool.or_eq_true, decide_eq_true_eq] at hblank
    rcases hblank with ((rfl | rfl) | rfl) | rfl <;> cases hd
  · rintro rfl
    cases hd
  · rintro rfl
    cases hd

namespace Enclosure

variable {σ : Type} {b : Enclosure} {item : σ → Reader σ}

theorem isBlank_closing : isBlank b.closing = false := by
  cases b <;> rfl

theorem ends_closing (rest : List Char) : Ends (b.closing :: rest) := by
  cases b <;> simp [Ends, closing]

theorem ne_closing_of_opens {c : Char} {s : List Char} (h : Opens (c :: s)) :
    c ≠ b.closing := by
  obtain ⟨d, r, heq, -, hlist, hobject⟩ := h
  obtain ⟨rfl, rfl⟩ := List.cons.inj heq
  cases b with
  | list => exact hlist
  | object => exact hobject

theorem foldMore_closing {s rest : List Char} (hs : skipBlanks s = b.closing :: rest)
    (state : σ) : b.foldMore item state s = .ok (state, rest) := by
  unfold foldMore
  split
  · simp_all
  · simp_all

theorem foldMore_comma {state next : σ} {s r rest : List Char} (hs : skipBlanks s = ',' :: r)
    (hr : Opens (skipBlanks r)) (hrun : (item state).run (skipBlanks r) = .ok (next, rest)) :
    b.foldMore item state s = b.foldMore item next rest := by
  have hcomma : ',' ≠ b.closing := by cases b <;> decide
  obtain ⟨d, t, hopens, hd⟩ := hr
  have hclosing : d ≠ b.closing := ne_closing_of_opens ⟨d, t, rfl, hd⟩
  rw [foldMore]
  split
  · simp_all
  · rename_i c r' hc
    obtain ⟨rfl, rfl⟩ := List.cons.inj (hs.symm.trans hc)
    rw [if_neg hcomma, if_pos rfl]
    split
    · simp_all
    · rename_i d' t' ht
      obtain ⟨rfl, rfl⟩ := List.cons.inj (hopens.symm.trans ht)
      rw [if_neg hclosing]
      split
      · simp_all
      · simp_all

theorem fold_closing {s rest : List Char} (hs : skipBlanks s = b.closing :: rest) (state : σ) :
    b.fold item state s = .ok (state, rest) := by
  simp [fold, hs]

theorem fold_item {state next : σ} {s rest : List Char} (hs : Opens (skipBlanks s))
    (hrun : (item state).run (skipBlanks s) = .ok (next, rest)) :
    b.fold item state s = b.foldMore item next rest := by
  obtain ⟨d, t, hopens, hd⟩ := hs
  rw [hopens] at hrun
  simp only [fold, hopens, ne_closing_of_opens ⟨d, t, rfl, hd⟩, if_false, hrun]

/-- Brackets are empty, or an item follows the opening one. -/
theorem fold_cases {state last : σ} {s rest : List Char}
    (h : b.fold item state s = .ok (last, rest)) :
    (skipBlanks s = b.closing :: rest ∧ last = state) ∨
      ∃ next rest', (item state).run (skipBlanks s) = .ok (next, rest') ∧
        b.foldMore item next rest' = .ok (last, rest) := by
  unfold fold at h
  split at h
  · cases h
  · rename_i c r hs
    split at h
    · rename_i hc
      cases h
      exact .inl ⟨by rw [hs, hc], rfl⟩
    · split at h
      · cases h
      · rename_i next rest' hi
        exact .inr ⟨next, rest', by rw [hs, hi], h⟩

/-- Texts that take the items from one state to another, one after the other. -/
inductive Reads (item : σ → Reader σ) : σ → List (List Char) → σ → Prop
  | nil (state : σ) : Reads item state [] state
  | cons {state next last : σ} {text : List Char} {texts : List (List Char)}
      (hhead : (item state).Takes text next) (htail : Reads item next texts last) :
      Reads item state (text :: texts) last

theorem ends_flatMap (texts : List (List Char)) (rest : List Char) :
    Ends (texts.flatMap (',' :: ·) ++ b.closing :: rest) := by
  cases texts with
  | nil => exact ends_closing rest
  | cons text texts => exact ends_comma _

theorem foldMore_of_reads {state last : σ} {texts : List (List Char)}
    (h : Reads item state texts last) (rest : List Char) :
    b.foldMore item state (texts.flatMap (',' :: ·) ++ b.closing :: rest) = .ok (last, rest) := by
  induction h with
  | nil state => exact foldMore_closing (skipBlanks_cons isBlank_closing rest) state
  | cons hhead htail ih =>
      rename_i state next last text texts
      have hopens := hhead.opens.append (texts.flatMap (',' :: ·) ++ b.closing :: rest)
      have hrun := hhead.run_append _ (ends_flatMap (b := b) texts rest)
      rw [← hopens.skipBlanks_eq] at hrun hopens
      rw [List.flatMap_cons, List.cons_append, List.cons_append, List.append_assoc,
        foldMore_comma (skipBlanks_cons rfl _) hopens hrun, ih]

theorem separated_cons (text : List Char) (texts : List (List Char)) :
    Wire.separated (text :: texts) = text ++ texts.flatMap (',' :: ·) := by
  induction texts generalizing text with
  | nil => simp [Wire.separated]
  | cons next texts ih => simp [Wire.separated, ih]

theorem fold_of_reads {state last : σ} {texts : List (List Char)}
    (h : Reads item state texts last) (rest : List Char) :
    b.fold item state (Wire.separated texts ++ b.closing :: rest) = .ok (last, rest) := by
  cases h with
  | nil => exact fold_closing (skipBlanks_cons isBlank_closing rest) state
  | cons hhead htail =>
      rename_i next text texts
      have hopens := hhead.opens.append (texts.flatMap (',' :: ·) ++ b.closing :: rest)
      have hrun := hhead.run_append _ (ends_flatMap (b := b) texts rest)
      rw [← hopens.skipBlanks_eq] at hrun hopens
      rw [separated_cons, List.append_assoc, fold_item hopens hrun]
      exact foldMore_of_reads htail rest

theorem keeps_foldMore {I : σ → Prop}
    (hitem : ∀ {state next s rest}, I state → (item state).run s = .ok (next, rest) → I next)
    {state last : σ} {s rest : List Char} (hstate : I state)
    (h : b.foldMore item state s = .ok (last, rest)) : I last := by
  fun_induction foldMore b item state s with
  | case1 | case3 | case4 | case5 | case7 => cases h
  | case2 state s r hs =>
      cases h
      exact hstate
  | case6 state s r d t hr hd next rest' hi hs hc ih => exact ih (hitem hstate hi) h

/-- What every item keeps is kept by the loop. -/
theorem keeps_fold {I : σ → Prop}
    (hitem : ∀ {state next s rest}, I state → (item state).run s = .ok (next, rest) → I next)
    {state last : σ} {s rest : List Char} (hstate : I state)
    (h : b.fold item state s = .ok (last, rest)) : I last := by
  rcases fold_cases h with ⟨-, rfl⟩ | ⟨next, rest', hi, hmore⟩
  · exact hstate
  · exact keeps_foldMore hitem (hitem hstate hi) hmore

end Enclosure

end SensorGateway.Json
