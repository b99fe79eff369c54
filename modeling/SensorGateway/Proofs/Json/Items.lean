import Mathlib.Data.List.DropRight
import SensorGateway.Proofs.Json.Enclosure
import SensorGateway.Proofs.Json.Tree

/-!
Items between brackets are read by the grammar. `Reader.Follows` says of a reader that it
takes what is written, whatever may follow, and takes nothing else; if the reader of the items
does so, then so does the loop over them, with blanks around each of them.
-/

namespace SensorGateway.Json

/-! ### Blanks -/

theorem isBlank_iff {c : Char} :
    isBlank c = true ↔ c = ' ' ∨ c = '\t' ∨ c = '\n' ∨ c = '\r' := by
  simp [isBlank, or_assoc]

theorem skipBlanks_append (blanks : Blanks) (s : List Char) :
    skipBlanks (blanks.chars ++ s) = skipBlanks s :=
  List.dropWhile_append_of_pos fun c hc => isBlank_iff.2 (blanks.blank c hc)

theorem skipBlanks_append_cons (blanks : Blanks) {c : Char} (h : isBlank c = false)
    (s : List Char) : skipBlanks (blanks.chars ++ c :: s) = c :: s := by
  rw [skipBlanks_append, skipBlanks_cons h]

theorem exists_blanks_append (s : List Char) :
    ∃ blanks : Blanks, s = blanks.chars ++ skipBlanks s :=
  ⟨⟨s.takeWhile isBlank, fun _ hc => isBlank_iff.1 (List.mem_takeWhile_imp hc)⟩,
    List.takeWhile_append_dropWhile.symm⟩

theorem skipBlanks_eq_nil_iff {s : List Char} :
    skipBlanks s = [] ↔ ∃ blanks : Blanks, s = blanks.chars := by
  constructor
  · intro h
    obtain ⟨blanks, hs⟩ := exists_blanks_append s
    exact ⟨blanks, by rwa [h, List.append_nil] at hs⟩
  · rintro ⟨blanks, rfl⟩
    have h := skipBlanks_append blanks []
    rwa [List.append_nil] at h

@[simp]
theorem skipBlanks_skipBlanks (s : List Char) : skipBlanks (skipBlanks s) = skipBlanks s :=
  List.dropWhile_idempotent isBlank s

theorem endsNumber_append (blanks : Blanks) {rest : List Char} (hrest : EndsNumber rest) :
    EndsNumber (blanks.chars ++ rest) := by
  cases hblanks : blanks.chars with
  | nil => exact hrest
  | cons c cs =>
      intro d hd
      obtain rfl : c = d := Option.some.inj hd
      rcases blanks.blank c (by simp [hblanks]) with rfl | rfl | rfl | rfl <;> decide

/-! ### Readers -/

/-- A reader takes what is written and has a value, and nothing else. What it is given
starts with a sign. -/
structure Reader.Follows {α β : Type} (reader : Reader α) (written : β → List Char)
    (value? : β → Option α) : Prop where
  opens : ∀ b, Opens (written b)
  complete : ∀ {b a}, value? b = some a →
    ∀ {rest}, EndsNumber rest → reader.run (written b ++ rest) = .ok (a, rest)
  sound : ∀ {s a rest}, skipBlanks s = s → reader.run s = .ok (a, rest) →
    ∃ b, value? b = some a ∧ s = written b ++ rest

def Reader.SkipsBlanks {α : Type} (reader : Reader α) : Prop :=
  ∀ s, reader.run (skipBlanks s) = reader.run s

variable {α β : Type} {reader : Reader α} {written : β → List Char} {value? : β → Option α}

namespace Reader

theorem SkipsBlanks.run_append (h : reader.SkipsBlanks) (blanks : Blanks) (s : List Char) :
    reader.run (blanks.chars ++ s) = reader.run s := by
  rw [← h, skipBlanks_append, h]

theorem Follows.skipBlanks_append (h : reader.Follows written value?) (blanks : Blanks) (b : β)
    (rest : List Char) :
    skipBlanks (blanks.chars ++ (written b ++ rest)) = written b ++ rest := by
  rw [Json.skipBlanks_append, ((h.opens b).append rest).skipBlanks_eq]

theorem onto_eq_ok_iff {before next : List α} {s rest : List Char} :
    (reader.onto before).run s = .ok (next, rest) ↔
      ∃ a, reader.run s = .ok (a, rest) ∧ next = a :: before := by
  dsimp only [onto]
  cases reader.run s with
  | error fault => simp
  | ok result =>
      simp only [Except.ok.injEq, Prod.ext_iff]
      grind

end Reader

/-! ### Items between brackets -/

namespace Enclosure

variable {e : Enclosure}

/-- What stands between an item and the text after the closing bracket. -/
def writtenMore (e : Enclosure) (written : β → List Char) (after : Blanks)
    (items : List (Padded β)) (rest : List Char) : List Char :=
  after.chars ++ (items.flatMap (fun item => ',' :: item.written written) ++ e.closing :: rest)

theorem writtenMore_cons (after : Blanks) (item : Padded β) (items : List (Padded β))
    (rest : List Char) :
    e.writtenMore written after (item :: items) rest =
      after.chars ++ ',' :: (item.before.chars ++ (written item.content ++
        e.writtenMore written item.after items rest)) := by
  simp [writtenMore, Padded.written]

theorem endsNumber_writtenMore (after : Blanks) (items : List (Padded β)) (rest : List Char) :
    EndsNumber (e.writtenMore written after items rest) := by
  refine endsNumber_append after (endsNumber_of_ends ?_)
  cases items with
  | nil => exact ends_closing rest
  | cons item items => exact ends_comma _

theorem onto_written (h : reader.Follows written value?) {item : Padded β} {a : α}
    (ha : value? item.content = some a) (before : List α) (items : List (Padded β))
    (rest : List Char) :
    (reader.onto before).run (written item.content ++ e.writtenMore written item.after items rest) =
      .ok (a :: before, e.writtenMore written item.after items rest) :=
  Reader.onto_eq_ok_iff.2 ⟨a, h.complete ha (endsNumber_writtenMore item.after items rest), rfl⟩

theorem foldMore_written (h : reader.Follows written value?) {items : List (Padded β)}
    {as : List α} (has : items.mapM (fun item => value? item.content) = some as)
    (before : List α) (after : Blanks) (rest : List Char) :
    e.foldMore reader.onto before (e.writtenMore written after items rest) =
      .ok (as.reverse ++ before, rest) := by
  induction items generalizing as before after with
  | nil =>
      obtain rfl : as = [] := by simpa using has
      exact foldMore_closing (skipBlanks_append_cons after isBlank_closing rest) before
  | cons item items ih =>
      obtain ⟨a, as, ha, hmore, rfl⟩ := mapM_cons_eq_some_iff.1 has
      have hskip := h.skipBlanks_append item.before item.content
        (e.writtenMore written item.after items rest)
      have hopens := (h.opens item.content).append (e.writtenMore written item.after items rest)
      have hrun := onto_written (e := e) h ha before items rest
      rw [← hskip] at hrun hopens
      rw [writtenMore_cons, foldMore_comma (skipBlanks_append_cons after rfl _) hopens hrun,
        ih hmore, List.reverse_cons, List.append_assoc, List.singleton_append]

theorem written_of_foldMore (h : reader.Follows written value?) {before last : List α}
    {s rest : List Char} (hfold : e.foldMore reader.onto before s = .ok (last, rest)) :
    ∃ (after : Blanks) (items : List (Padded β)) (as : List α),
      items.mapM (fun item => value? item.content) = some as ∧ last = as.reverse ++ before ∧
        s = e.writtenMore written after items rest := by
  fun_induction foldMore e reader.onto before s with
  | case1 | case3 | case4 | case5 | case7 => cases hfold
  | case2 before s r hs =>
      cases hfold
      obtain ⟨after, hafter⟩ := exists_blanks_append s
      rw [hs] at hafter
      exact ⟨after, [], [], rfl, rfl, hafter⟩
  | case6 before s r d t hr hd next rest' hi hs hc ih =>
      obtain ⟨a, hrun, rfl⟩ := Reader.onto_eq_ok_iff.1 hi
      rw [← hr] at hrun
      obtain ⟨b, hb, hcontent⟩ := h.sound (skipBlanks_skipBlanks r) hrun
      obtain ⟨after, hafter⟩ := exists_blanks_append s
      obtain ⟨inFront, hinFront⟩ := exists_blanks_append r
      obtain ⟨behind, items, as, has, hlast, hrest⟩ := ih hfold
      refine ⟨after, ⟨inFront, b, behind⟩ :: items, a :: as, ?_, ?_, ?_⟩
      · exact mapM_cons_eq_some_iff.2 ⟨a, as, hb, has, rfl⟩
      · rw [hlast, List.reverse_cons, List.append_assoc, List.singleton_append]
      · rw [writtenMore_cons, ← hrest, ← hcontent, ← hinFront, ← hs, ← hafter]

/-- What stands between the opening bracket and the text after the closing one. -/
def writtenItems (e : Enclosure) (written : β → List Char) (inside : Blanks)
    (items : List (Padded β)) (rest : List Char) : List Char :=
  inside.chars ++ (Wire.separated (items.map (Padded.written written)) ++ e.closing :: rest)

theorem writtenItems_cons (inside : Blanks) (item : Padded β) (items : List (Padded β))
    (rest : List Char) :
    e.writtenItems written inside (item :: items) rest =
      (inside.append item.before).chars ++ (written item.content ++
        e.writtenMore written item.after items rest) := by
  simp [writtenItems, writtenMore, separated_cons, Padded.written, Blanks.append,
    List.flatMap_map]

theorem readItems_written (h : reader.Follows written value?) {items : List (Padded β)}
    {as : List α} (has : items.mapM (fun item => value? item.content) = some as)
    (inside : Blanks) (rest : List Char) :
    e.readItems reader (e.writtenItems written inside items rest) = .ok (as, rest) := by
  cases items with
  | nil =>
      obtain rfl : as = [] := by simpa using has
      have hfold : e.fold reader.onto [] (inside.chars ++ e.closing :: rest) = .ok ([], rest) :=
        fold_closing (skipBlanks_append_cons inside isBlank_closing rest) []
      simp only [readItems, writtenItems, List.map_nil, Wire.separated, List.nil_append, hfold,
        List.reverse_nil]
  | cons item items =>
      obtain ⟨a, as, ha, hmore, rfl⟩ := mapM_cons_eq_some_iff.1 has
      have hskip := h.skipBlanks_append (inside.append item.before) item.content
        (e.writtenMore written item.after items rest)
      have hopens := (h.opens item.content).append (e.writtenMore written item.after items rest)
      have hrun := onto_written (e := e) h ha [] items rest
      rw [← hskip] at hrun hopens
      have hfold := fold_item (b := e) hopens hrun
      rw [foldMore_written h hmore] at hfold
      simp only [readItems, writtenItems_cons, hfold, List.reverse_append, List.reverse_reverse,
        List.reverse_singleton, List.singleton_append]

theorem written_of_readItems (h : reader.Follows written value?) {s rest : List Char}
    {as : List α} (hread : e.readItems reader s = .ok (as, rest)) :
    ∃ (inside : Blanks) (items : List (Padded β)),
      items.mapM (fun item => value? item.content) = some as ∧
        s = e.writtenItems written inside items rest := by
  unfold readItems at hread
  split at hread
  · cases hread
  · rename_i last rest' hfold
    obtain ⟨rfl, rfl⟩ := Prod.mk.inj (Except.ok.inj hread)
    obtain ⟨inside, hinside⟩ := exists_blanks_append s
    rcases fold_cases hfold with ⟨hs, rfl⟩ | ⟨next, rest', hi, hmore⟩
    · exact ⟨inside, [], rfl, by rw [hinside, hs]; rfl⟩
    · obtain ⟨a, hrun, rfl⟩ := Reader.onto_eq_ok_iff.1 hi
      obtain ⟨b, hb, hcontent⟩ := h.sound (skipBlanks_skipBlanks s) hrun
      obtain ⟨after, items, as, has, rfl, rfl⟩ := written_of_foldMore h hmore
      refine ⟨inside, ⟨.none, b, after⟩ :: items, ?_, ?_⟩
      · rw [List.reverse_append, List.reverse_reverse, List.reverse_singleton,
          List.singleton_append]
        exact mapM_cons_eq_some_iff.2 ⟨a, as, hb, has, rfl⟩
      · rw [writtenItems_cons, ← hcontent, Blanks.append_none, ← hinside]

end Enclosure

end SensorGateway.Json
