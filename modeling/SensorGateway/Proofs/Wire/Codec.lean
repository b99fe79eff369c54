import SensorGateway.Proofs.Identifiers
import SensorGateway.Proofs.Json.Enclosure
import SensorGateway.Proofs.Json.Scanning
import SensorGateway.Proofs.Json.TextLiteral
import SensorGateway.Wire.Status

/-!
What it means that a codec reads its own writing: `Codec.Restores` for one value, whatever
follows it, and `Codec.Sound` for all values that the codec reads from anything. Texts,
identifiers, truth values and lists of them are restored whatever they are, natural numbers
as far as they fit their word.
-/

namespace SensorGateway.Wire

open Json

/-- The written form of a value is read back. -/
def Codec.Restores {α : Type} (codec : Codec α) (a : α) : Prop :=
  codec.reader.Takes (codec.write a) a

/-- Whatever is read is restored from its written form. -/
def Codec.Sound {α : Type} (codec : Codec α) : Prop :=
  ∀ {s a rest}, codec.reader.run s = .ok (a, rest) → codec.Restores a

namespace Codec

variable {α : Type} {codec : Codec α}

theorem Sound.of_restores (h : ∀ a, codec.Restores a) : codec.Sound :=
  fun {_ a _} _ => h a

theorem Restores.decode_write {a : α} (h : codec.Restores a) :
    codec.decode (codec.write a) = .ok a := by
  have hrun := h.run_append [] ends_nil
  rw [List.append_nil] at hrun
  rw [decode, hrun]
  rfl

/-- A document is read as a value only if the reader takes the value off its front. -/
theorem exists_run_of_decode {s : List Char} {a : α} (h : codec.decode s = .ok a) :
    ∃ rest, codec.reader.run s = .ok (a, rest) := by
  unfold decode at h
  split at h
  · cases h
  · rename_i a' rest hrun
    refine ⟨rest, ?_⟩
    unfold readEnd at h
    split at h
    · cases h
      exact hrun
    · cases h

theorem Sound.decode_again (hsound : codec.Sound) {s : List Char} {a : α}
    (h : codec.decode s = .ok a) : codec.decode (codec.write a) = .ok a := by
  obtain ⟨rest, hrun⟩ := exists_run_of_decode h
  exact (hsound hrun).decode_write

end Codec

theorem opens_writeText (cs : List Char) : Opens (writeText cs) :=
  ⟨'"', _, rfl, by decide⟩

theorem writeText_append (cs rest : List Char) :
    writeText cs ++ rest = '"' :: (cs.flatMap writeChar ++ '"' :: rest) := by
  simp [writeText]

theorem readQuoted_writeText (expected : Expected) (cs rest : List Char) :
    readQuoted expected (writeText cs ++ rest) = .ok (cs, rest) := by
  rw [readQuoted, ((opens_writeText cs).append rest).skipBlanks_eq, writeText_append]
  exact readText_flatMap_writeChar cs rest

theorem takes_namedReader {α : Type} (expected : Expected) {parse : List Char → Except String α}
    {cs : List Char} {a : α} (h : parse cs = .ok a) :
    (namedReader expected parse).Takes (writeText cs) a where
  opens := opens_writeText cs
  run_append rest _ := by simp only [namedReader, readQuoted_writeText, h]

theorem text_restores (s : String) : text.Restores s := by
  show (namedReader .text fun cs => .ok (String.ofList cs)).Takes (writeText s.toList) s
  exact takes_namedReader .text (by rw [String.ofList_toList])

theorem objectId_restores (id : ObjectId) : objectId.Restores id :=
  takes_namedReader .text (by
    rw [ObjectId.identify, String.ofList_toList, ObjectId.parse_display]
    rfl)

theorem uuid_restores (id : Uuid) : uuid.Restores id :=
  takes_namedReader .uuid (by simp)

theorem status_restores (decision : SensorStatus) : status.Restores decision where
  opens := opens_writeText _
  run_append rest _ := by
    show readStatus (writeText decision.name.toList ++ rest) = .ok (decision, rest)
    rw [readStatus, ((opens_writeText _).append rest).skipBlanks_eq, writeText_append]
    simp only [if_true, readStatusName, readText_flatMap_writeChar]
    cases decision <;> rfl

theorem flag_restores (b : Bool) : flag.Restores b where
  opens := by cases b <;> exact ⟨_, _, rfl, by decide⟩
  run_append rest _ := by cases b <;> rfl

theorem opens_toDigits (n : Nat) : Opens (Nat.toDigits 10 n) := by
  obtain ⟨d, ds, heq, hd⟩ := exists_cons_toDigits n
  rw [heq]
  exact opens_of_isDigit hd ds

/-- Numbers are restored if they fit the word that is asked for. -/
theorem word_restores {name : String} {max n : Nat} (hmax : max ≤ maxWord) (hn : n ≤ max) :
    (word name max).Restores n where
  opens := opens_toDigits n
  run_append rest hrest := by
    have hskip := ((opens_toDigits n).append rest).skipBlanks_eq
    have hread := readNumber_toDigits (Nat.le_trans hn hmax) (endsNumber_of_ends hrest)
    obtain ⟨d, ds, heq, hd⟩ := exists_cons_toDigits n
    show readWordOf name max (Nat.toDigits 10 n ++ rest) = .ok (n, rest)
    rw [readWordOf, hskip]
    rw [heq, List.cons_append] at hread ⊢
    simp only [hd, or_true, if_true, hread, hn]

theorem le_of_readWordOf {name : String} {max n : Nat} {s rest : List Char}
    (h : readWordOf name max s = .ok (n, rest)) : n ≤ max := by
  unfold readWordOf at h
  split at h
  · cases h
  · split at h
    · split at h
      · cases h
      · split at h
        · cases h
          assumption
        · cases h
      · cases h
      · cases h
    · exact absurd h wrongType_ne_ok

theorem word_sound {name : String} {max : Nat} (hmax : max ≤ maxWord) :
    (word name max).Sound :=
  fun h => word_restores hmax (le_of_readWordOf h)

/-- An optional value is restored unless its written form could be taken for `null`. -/
theorem optional_restores {α : Type} {item : Codec α} (hitem : ∀ a, item.Restores a)
    (hnull : ∀ a r, item.write a ≠ 'n' :: r) (a : Option α) : (optional item).Restores a := by
  cases a with
  | none => exact ⟨⟨'n', _, rfl, by decide⟩, fun rest _ => rfl⟩
  | some a =>
      refine ⟨(hitem a).opens, fun rest hrest => ?_⟩
      show readOptional item.reader (item.write a ++ rest) = .ok (some a, rest)
      rw [readOptional, ((hitem a).opens.append rest).skipBlanks_eq]
      split
      · rename_i r hr
        obtain ⟨c, t, hw, -⟩ := (hitem a).opens
        rw [hw, List.cons_append, List.cons.injEq] at hr
        exact absurd (hr.1 ▸ hw) (hnull a t)
      · rw [(hitem a).run_append rest hrest]
        rfl

theorem reads_onto {α : Type} {item : Codec α} {items : List α}
    (hitems : ∀ a ∈ items, item.Restores a) (before : List α) :
    Enclosure.Reads item.reader.onto before (items.map item.write) (items.reverse ++ before) := by
  induction items generalizing before with
  | nil => exact .nil before
  | cons a items ih =>
      rw [List.forall_mem_cons] at hitems
      rw [List.reverse_cons, List.append_assoc]
      refine .cons ⟨hitems.1.opens, fun rest hrest => ?_⟩ (ih hitems.2 (a :: before))
      simp only [Reader.onto, hitems.1.run_append rest hrest]

theorem listOf_restores {α : Type} {item : Codec α} {items : List α}
    (hitems : ∀ a ∈ items, item.Restores a) : (listOf item).Restores items where
  opens := ⟨'[', _, rfl, by decide⟩
  run_append rest _ := by
    have htext : (listOf item).write items ++ rest =
        '[' :: (separated (items.map item.write) ++ ']' :: rest) := by
      simp [listOf]
    have hfold : Enclosure.list.fold item.reader.onto []
        (separated (items.map item.write) ++ ']' :: rest) =
        .ok (items.reverse ++ [], rest) :=
      Enclosure.fold_of_reads (reads_onto hitems []) rest
    show readList item.reader ((listOf item).write items ++ rest) = .ok (items, rest)
    rw [htext, readList, skipBlanks_cons (by decide)]
    show Enclosure.list.readItems item.reader _ = .ok (items, rest)
    simp only [Enclosure.readItems, hfold, List.append_nil, List.reverse_reverse]

end SensorGateway.Wire
