import SensorGateway.Proofs.Json.Items
import SensorGateway.Proofs.Json.Scanning
import SensorGateway.Proofs.Json.Spelling

/-!
Documents are read by the grammar: members if their values are, values if those within their
brackets are, and so, by induction on the depth, values of every depth. `parse_eq_ok_iff` says
that exactly the written documents are read, each as its value.
-/

namespace SensorGateway.Json

/-! ### Members -/

theorem readKey_written {key : List Piece} {cs : List Char} (h : characters? key = some cs)
    (rest : List Char) : readKey (quote key ++ rest) = .ok (cs, rest) := by
  have hread := readText_written h rest
  simpa [quote, readKey] using hread

theorem written_of_readKey {s cs rest : List Char} (h : readKey s = .ok (cs, rest)) :
    ∃ key, characters? key = some cs ∧ s = quote key ++ rest := by
  unfold readKey at h
  split at h
  · obtain ⟨key, hkey, rfl⟩ := written_of_readText h
    exact ⟨key, hkey, by simp [quote]⟩
  · cases h

theorem readColon_written (before : Blanks) (rest : List Char) :
    readColon (before.chars ++ ':' :: rest) = .ok rest := by
  simp [readColon, skipBlanks_append_cons before (c := ':') rfl rest]

theorem written_of_readColon {s rest : List Char} (h : readColon s = .ok rest) :
    ∃ before : Blanks, s = before.chars ++ ':' :: rest := by
  unfold readColon at h
  split at h
  · cases h
  · rename_i c r hs
    split at h
    · rename_i hc
      cases h
      obtain ⟨before, hbefore⟩ := exists_blanks_append s
      exact ⟨before, by rw [hbefore, hs, hc]⟩
    · cases h

section Member

variable {β : Type} {value : Reader Value} {written : β → List Char} {value? : β → Option Value}

theorem Member.value?_eq_some_iff {m : Member β} {key : List Char} {v : Value} :
    m.value? value? = some (key, v) ↔ characters? m.key = some key ∧ value? m.value = some v := by
  rw [Member.value?]
  cases characters? m.key <;> cases value? m.value <;> simp

theorem memberReader_follows (h : value.Follows written value?) (hskips : value.SkipsBlanks) :
    (memberReader value).Follows (Member.written written) (Member.value? value?) where
  opens m := ⟨'"', _, rfl, by decide⟩
  complete := by
    rintro m ⟨key, v⟩ hm rest hrest
    obtain ⟨hkey, hv⟩ := Member.value?_eq_some_iff.1 hm
    show readMember value _ = _
    have hread : value.run (m.afterColon.chars ++ (written m.value ++ rest)) = .ok (v, rest) := by
      rw [hskips.run_append, h.complete hv hrest]
    simp only [Member.written, List.append_assoc, List.cons_append, readMember,
      readKey_written hkey, readColon_written, hread]
  sound := by
    rintro s ⟨key, v⟩ rest - hread
    replace hread : readMember value s = .ok ((key, v), rest) := hread
    unfold readMember at hread
    split at hread
    · cases hread
    · rename_i key' s₁ hkey
      split at hread
      · cases hread
      · rename_i s₂ hcolon
        split at hread
        · cases hread
        · rename_i v' rest' hvalue
          cases hread
          obtain ⟨pieces, hpieces, rfl⟩ := written_of_readKey hkey
          obtain ⟨beforeColon, rfl⟩ := written_of_readColon hcolon
          obtain ⟨afterColon, hafter⟩ := exists_blanks_append s₂
          -- the blanks after the colon are part of the member, not of its value
          rw [← hskips] at hvalue
          obtain ⟨b, hb, hs⟩ := h.sound (skipBlanks_skipBlanks s₂) hvalue
          refine ⟨⟨pieces, beforeColon, afterColon, b⟩,
            Member.value?_eq_some_iff.2 ⟨hpieces, hb⟩, ?_⟩
          rw [hafter, hs]
          simp [Member.written]

end Member

/-! ### Values -/

theorem readWord_append (word rest : List Char) : readWord word (word ++ rest) = .ok rest := by
  induction word with
  | nil => rfl
  | cons c word ih => rw [List.cons_append, readWord, if_pos rfl, ih]

theorem eq_append_of_readWord {word s rest : List Char} (h : readWord word s = .ok rest) :
    s = word ++ rest := by
  induction word generalizing s with
  | nil => cases h; rfl
  | cons w word ih =>
      cases s with
      | nil => cases h
      | cons c s =>
          unfold readWord at h
          split at h
          · rename_i hc
            rw [hc, ih h, List.cons_append]
          · cases h

theorem readValue_skipBlanks (inner : Option (Reader Value)) (s : List Char) :
    readValue inner (skipBlanks s) = readValue inner s := by
  unfold readValue
  rw [skipBlanks_skipBlanks]

theorem WrittenNumber.exists_cons (n : WrittenNumber) :
    ∃ c r, n.written = c :: r ∧ (c = '-' ∨ c.isDigit = true) := by
  rw [written]
  cases n.minus with
  | true => exact ⟨'-', _, rfl, .inl rfl⟩
  | false =>
      cases hwhole : n.whole.chars with
      | nil => exact absurd hwhole n.whole.ne_nil
      | cons d ds => exact ⟨d, _, rfl, .inr (n.whole.digits d (by simp [hwhole]))⟩

theorem opens_number {c : Char} (hc : c = '-' ∨ c.isDigit = true) (r : List Char) :
    Opens (c :: r) := by
  rcases hc with rfl | hc
  · exact ⟨'-', r, rfl, by decide⟩
  · exact opens_of_isDigit hc r

theorem Scalar.opens (s : Scalar) : Opens s.written := by
  match s with
  | .null => exact ⟨'n', _, rfl, by decide⟩
  | .boolean true => exact ⟨'t', _, rfl, by decide⟩
  | .boolean false => exact ⟨'f', _, rfl, by decide⟩
  | .text pieces => exact ⟨'"', _, rfl, by decide⟩
  | .number n =>
      obtain ⟨c, r, hn, hc⟩ := n.exists_cons
      rw [written, hn]
      exact opens_number hc r

theorem readValue_number (inner : Option (Reader Value)) {c : Char}
    (hc : c = '-' ∨ c.isDigit = true) (r : List Char) :
    readValue inner (c :: r) =
      (readNumber (c :: r)).map fun (n, rest) => (.number n, rest) := by
  unfold readValue
  rw [(opens_number hc r).skipBlanks_eq]
  split
  case h_8 d r' _ _ _ _ _ _ heq =>
    obtain ⟨rfl, rfl⟩ := List.cons.inj heq
    rw [if_pos hc]
  case h_1 heq => cases heq
  all_goals
    rename_i heq
    obtain ⟨rfl, -⟩ := List.cons.inj heq
    exact absurd hc (by decide)

theorem readValue_scalar (inner : Option (Reader Value)) {s : Scalar} {v : Value}
    (hv : s.value? = some v) {rest : List Char} (hrest : EndsNumber rest) :
    readValue inner (s.written ++ rest) = .ok (v, rest) := by
  match s with
  | .null =>
      cases hv
      show (readWord "ull".toList ("ull".toList ++ rest)).map _ = _
      rw [readWord_append]
      rfl
  | .boolean true =>
      cases hv
      show (readWord "rue".toList ("rue".toList ++ rest)).map _ = _
      rw [readWord_append]
      rfl
  | .boolean false =>
      cases hv
      show (readWord "alse".toList ("alse".toList ++ rest)).map _ = _
      rw [readWord_append]
      rfl
  | .text pieces =>
      obtain ⟨cs, hcs, rfl⟩ := Option.map_eq_some_iff.1 hv
      show (readText (pieces.flatMap Piece.written ++ ['"'] ++ rest)).map _ = _
      rw [List.append_assoc, List.singleton_append, readText_written hcs]
      rfl
  | .number n =>
      obtain ⟨number, hnumber, rfl⟩ := Option.map_eq_some_iff.1 hv
      obtain ⟨c, r, hn, hc⟩ := n.exists_cons
      have hread := readNumber_written n hnumber hrest
      rw [hn] at hread
      show readValue inner (n.written ++ rest) = _
      rw [hn, List.cons_append, readValue_number inner hc]
      rw [List.cons_append] at hread
      rw [hread]
      rfl

/-- What is read as a value starts with a scalar, or with an opening bracket and items that
the inner reader has read. -/
theorem written_of_readValue {inner : Option (Reader Value)} {s rest : List Char} {v : Value}
    (hs : skipBlanks s = s) (h : readValue inner s = .ok (v, rest)) :
    (∃ scalar : Scalar, scalar.value? = some v ∧ s = scalar.written ++ rest) ∨
      ∃ value, inner = some value ∧
        ((∃ r items, s = '[' :: r ∧ Enclosure.list.readItems value r = .ok (items, rest) ∧
          v = .list items) ∨
        ∃ r members, s = '\x7b' :: r ∧
          Enclosure.object.readItems (memberReader value) r = .ok (members, rest) ∧
          v = .object members) := by
  unfold readValue at h
  rw [hs] at h
  -- one case for each sign that a value may start with
  split at h
  · cases h
  · obtain ⟨rest', hword, heq⟩ := exists_of_map_eq_ok h
    cases heq
    exact .inl ⟨.null, rfl, by rw [eq_append_of_readWord hword]; rfl⟩
  · obtain ⟨rest', hword, heq⟩ := exists_of_map_eq_ok h
    cases heq
    exact .inl ⟨.boolean true, rfl, by rw [eq_append_of_readWord hword]; rfl⟩
  · obtain ⟨rest', hword, heq⟩ := exists_of_map_eq_ok h
    cases heq
    exact .inl ⟨.boolean false, rfl, by rw [eq_append_of_readWord hword]; rfl⟩
  · obtain ⟨⟨cs, rest'⟩, htext, heq⟩ := exists_of_map_eq_ok h
    cases heq
    obtain ⟨pieces, hpieces, rfl⟩ := written_of_readText htext
    exact .inl ⟨.text pieces, by rw [Scalar.value?, hpieces]; rfl,
      by simp [Scalar.written, quote]⟩
  · rename_i r
    cases inner with
    | none => cases h
    | some value =>
        obtain ⟨⟨items, rest'⟩, hitems, heq⟩ := exists_of_map_eq_ok h
        cases heq
        exact .inr ⟨value, rfl, .inl ⟨r, items, rfl, hitems, rfl⟩⟩
  · rename_i r
    cases inner with
    | none => cases h
    | some value =>
        obtain ⟨⟨members, rest'⟩, hmembers, heq⟩ := exists_of_map_eq_ok h
        cases heq
        exact .inr ⟨value, rfl, .inr ⟨r, members, rfl, hmembers, rfl⟩⟩
  · split at h
    · obtain ⟨⟨n, rest'⟩, hnumber, heq⟩ := exists_of_map_eq_ok h
      cases heq
      obtain ⟨written, hvalue, hwritten⟩ := written_of_readNumber hnumber
      exact .inl ⟨.number written, by rw [Scalar.value?, hvalue]; rfl, hwritten⟩
    · cases h

section Node

variable {β : Type} {inner : Reader Value} {written : β → List Char} {value? : β → Option Value}

theorem Node.opens (n : Node β) : Opens (n.written written) := by
  cases n with
  | scalar s => exact s.opens
  | list inside items => exact ⟨'[', _, rfl, by decide⟩
  | object inside members => exact ⟨'\x7b', _, rfl, by decide⟩

theorem list_append (inside : Blanks) (items : List (Padded β)) (rest : List Char) :
    '[' :: inside.chars ++ Wire.separated (items.map (Padded.written written)) ++ [']'] ++ rest =
      '[' :: Enclosure.list.writtenItems written inside items rest := by
  simp [Enclosure.writtenItems, Enclosure.closing]

theorem object_append (inside : Blanks) (members : List (Padded (Member β)))
    (rest : List Char) :
    '\x7b' :: inside.chars ++
          Wire.separated (members.map (Padded.written (Member.written written))) ++ ['\x7d'] ++ rest =
      '\x7b' :: Enclosure.object.writtenItems (Member.written written) inside members rest := by
  simp [Enclosure.writtenItems, Enclosure.closing]

theorem readValue_node (h : inner.Follows written value?) (hskips : inner.SkipsBlanks)
    {n : Node β} {v : Value} (hv : n.value? value? = some v) {rest : List Char}
    (hrest : EndsNumber rest) :
    readValue (some inner) (n.written written ++ rest) = .ok (v, rest) := by
  cases n with
  | scalar s => exact readValue_scalar (some inner) hv hrest
  | list inside items =>
      obtain ⟨vs, hvs, rfl⟩ := Option.map_eq_some_iff.1 hv
      rw [Node.written, list_append]
      show (Enclosure.list.readItems inner _).map _ = _
      rw [Enclosure.readItems_written h hvs]
      rfl
  | object inside members =>
      obtain ⟨vs, hvs, rfl⟩ := Option.map_eq_some_iff.1 hv
      rw [Node.written, object_append]
      show (Enclosure.object.readItems (memberReader inner) _).map _ = _
      rw [Enclosure.readItems_written (memberReader_follows h hskips) hvs]
      rfl

theorem node_of_readValue (h : inner.Follows written value?) (hskips : inner.SkipsBlanks)
    {s rest : List Char} {v : Value} (hs : skipBlanks s = s)
    (hread : readValue (some inner) s = .ok (v, rest)) :
    ∃ n : Node β, n.value? value? = some v ∧ s = n.written written ++ rest := by
  rcases written_of_readValue hs hread with ⟨scalar, hv, hs⟩ | ⟨value, hvalue, hbrackets⟩
  · exact ⟨.scalar scalar, hv, hs⟩
  · obtain rfl := Option.some.inj hvalue
    rcases hbrackets with ⟨r, items, rfl, hitems, rfl⟩ | ⟨r, members, rfl, hmembers, rfl⟩
    · obtain ⟨inside, written, hvs, rfl⟩ := Enclosure.written_of_readItems h hitems
      exact ⟨.list inside written, by rw [Node.value?, hvs]; rfl,
        by rw [Node.written, list_append]⟩
    · obtain ⟨inside, written, hvs, rfl⟩ :=
        Enclosure.written_of_readItems (memberReader_follows h hskips) hmembers
      exact ⟨.object inside written, by rw [Node.value?, hvs]; rfl,
        by rw [Node.written, object_append]⟩

end Node

/-! ### Documents -/

theorem valueReader_skipsBlanks (depth : Nat) : (valueReader depth).SkipsBlanks := by
  intro s
  cases depth with
  | zero => exact readValue_skipBlanks none s
  | succ depth => exact readValue_skipBlanks (some (valueReader depth)) s

theorem valueReader_follows (depth : Nat) :
    (valueReader depth).Follows (Tree.written depth) (Tree.value? depth) := by
  induction depth with
  | zero =>
      refine ⟨Scalar.opens, fun hv _ hrest => readValue_scalar none hv hrest, fun hs h => ?_⟩
      replace h : readValue none _ = _ := h
      rcases written_of_readValue hs h with hscalar | ⟨value, hinner, -⟩
      · exact hscalar
      · cases hinner
  | succ depth ih =>
      have hskips := valueReader_skipsBlanks depth
      exact ⟨Node.opens, fun hv _ hrest => readValue_node ih hskips hv hrest,
        fun hs h => node_of_readValue ih hskips hs h⟩

theorem endsNumber_blanks (blanks : Blanks) : EndsNumber blanks.chars := by
  have h := endsNumber_append blanks (endsNumber_of_ends ends_nil)
  rwa [List.append_nil] at h

theorem readEnd_eq_ok_iff {α : Type} {result a : α} {s : List Char} :
    readEnd result s = .ok a ↔ a = result ∧ ∃ blanks : Blanks, s = blanks.chars := by
  rw [← skipBlanks_eq_nil_iff, readEnd]
  split
  · rename_i hs
    simp [hs, eq_comm]
  · rename_i hs
    simp only [reduceCtorEq, false_iff, not_and]
    exact fun _ => hs

/-- Exactly the written documents that have a value are read, each as its value. -/
theorem parse_eq_ok_iff {s : List Char} {v : Value} :
    parse s = .ok v ↔ ∃ d : Document, d.written = s ∧ d.value? = some v := by
  have hreader := valueReader_follows maxDepth
  have hskips := valueReader_skipsBlanks maxDepth
  constructor
  · intro h
    unfold parse at h
    split at h
    · cases h
    · rename_i v' rest hrun
      obtain ⟨rfl, after, rfl⟩ := readEnd_eq_ok_iff.1 h
      rw [← hskips] at hrun
      obtain ⟨tree, htree, hs⟩ := hreader.sound (skipBlanks_skipBlanks s) hrun
      obtain ⟨before, hbefore⟩ := exists_blanks_append s
      refine ⟨⟨before, tree, after⟩, ?_, htree⟩
      rw [hbefore, hs, Document.written, Padded.written, List.append_assoc]
  · rintro ⟨⟨before, tree, after⟩, rfl, htree⟩
    have hrun : (valueReader maxDepth).run (Document.written ⟨before, tree, after⟩) =
        .ok (v, after.chars) := by
      rw [Document.written, Padded.written, List.append_assoc, hskips.run_append,
        hreader.complete htree (endsNumber_blanks after)]
    simp only [parse, hrun]
    exact readEnd_eq_ok_iff.2 ⟨rfl, after, rfl⟩

end SensorGateway.Json
