import SensorGateway.Proofs.Wire.Codec
import SensorGateway.Wire.Layout

/-!
Records are read back from what is written of them. `Slots.Fill` follows the members of an
object into the slots of their fields; it is built up along the list of the fields, where a
field put in front leaves the members of the others alone. `Layout.Lawful` collects what a
layout has to satisfy, and `Lawful.restores` and `Lawful.sound` are what follows for every
record, whatever form it was read from.
-/

namespace SensorGateway.Wire

open Json

/-- Whatever value of a field is read, or stands for one that is left out, is restored. -/
structure Field.Lawful (f : Field) : Prop where
  sound : f.codec.Sound
  absent : ∀ v ∈ f.absent, f.codec.Restores v

theorem Field.Lawful.of_restores {f : Field} (h : ∀ v, f.codec.Restores v) : f.Lawful :=
  ⟨Codec.Sound.of_restores h, fun v _ => h v⟩

theorem Field.Lawful.of_sound {name : String} {α : Type} {codec : Codec α}
    (h : codec.Sound) : Field.Lawful ⟨name, codec, none⟩ :=
  ⟨h, by simp⟩

def Row.Restores : (fs : List Field) → Row fs → Prop
  | [], () => True
  | f :: fs, (v, row) => f.codec.Restores v ∧ Row.Restores fs row

/-- The members that are written of a row: the key of each and the text after the key. -/
def Row.members : (fs : List Field) → Row fs → List (List Char × List Char)
  | [], () => []
  | f :: fs, (v, row) => (f.name.toList, ':' :: f.codec.write v) :: Row.members fs row

namespace Slots

def Restores : (fs : List Field) → Slots fs → Prop
  | [], () => True
  | f :: fs, (slot, slots) => (∀ v ∈ slot, f.codec.Restores v) ∧ Slots.Restores fs slots

/-- The slots of a row all of whose values were met. -/
def filled : (fs : List Field) → Row fs → Slots fs
  | [], () => ()
  | _ :: fs, (v, row) => (some v, filled fs row)

/-- A member is read into its slot, whatever may follow. -/
def Takes (fs : List Field) (slots : Slots fs) (key text : List Char) (next : Slots fs) :
    Prop :=
  ∀ rest, Ends rest → readInto key (text ++ rest) fs slots = some (.ok (next, rest))

theorem restores_empty (fs : List Field) : Slots.Restores fs (Slots.empty fs) := by
  induction fs with
  | nil => trivial
  | cons f fs ih => exact ⟨by simp, ih⟩

theorem restores_readInto {fs : List Field} (hfields : ∀ f ∈ fs, f.Lawful)
    {key s rest : List Char} {slots next : Slots fs} (hslots : Slots.Restores fs slots)
    (h : readInto key s fs slots = some (.ok (next, rest))) : Slots.Restores fs next := by
  fun_induction readInto key s fs slots with
  | case1 => cases h
  | case2 f fs slot slots hkey =>
      obtain ⟨⟨v, rest'⟩, hmember, heq⟩ := exists_of_map_eq_ok (Option.some.inj h)
      cases heq
      unfold Field.readMember at hmember
      split at hmember
      · cases hmember
      · split at hmember
        · cases hmember
        · have hv := (hfields f List.mem_cons_self).sound hmember
          exact ⟨fun w hw => by cases hw; exact hv, hslots.2⟩
  | case3 f fs slot slots hkey ih =>
      obtain ⟨result, hresult, heq⟩ := Option.map_eq_some_iff.1 h
      obtain ⟨⟨slots', rest'⟩, rfl, heq⟩ := exists_of_map_eq_ok heq
      cases heq
      exact ⟨hslots.1, ih (fun g hg => hfields g (List.mem_cons_of_mem f hg)) hslots.2 hresult⟩

theorem restores_complete {fs : List Field} (hfields : ∀ f ∈ fs, f.Lawful)
    {slots : Slots fs} {row : Row fs} (hslots : Slots.Restores fs slots)
    (h : complete fs slots = .ok row) : Row.Restores fs row := by
  induction fs with
  | nil => trivial
  | cons f fs ih =>
      rw [List.forall_mem_cons] at hfields
      obtain ⟨slot, slots⟩ := slots
      rw [complete] at h
      split at h
      · cases h
      · rename_i v hv
        split at h
        · cases h
        · rename_i row' hrow
          cases h
          refine ⟨?_, ih hfields.2 hslots.2 hrow⟩
          cases slot with
          | none => exact hfields.1.absent v hv
          | some w =>
              obtain rfl : w = v := Option.some.inj hv
              exact hslots.1 w rfl

/-- Members that are read into their slots one after the other. -/
inductive Fill (fs : List Field) : Slots fs → List (List Char × List Char) → Slots fs → Prop
  | nil (slots : Slots fs) : Fill fs slots [] slots
  | cons {slots next last : Slots fs} {key text : List Char}
      {members : List (List Char × List Char)} (hhead : Takes fs slots key text next)
      (htail : Fill fs next members last) : Fill fs slots ((key, text) :: members) last

@[simp] theorem complete_filled (fs : List Field) (row : Row fs) :
    complete fs (filled fs row) = .ok row := by
  induction fs with
  | nil => rfl
  | cons f fs ih =>
      obtain ⟨v, row⟩ := row
      simp only [filled, complete, ih]
      rfl

/-- A field in front does not concern the members of other names. -/
theorem Fill.under {f : Field} {fs : List Field} {slots last : Slots fs}
    {members : List (List Char × List Char)} (h : Fill fs slots members last)
    (hne : ∀ m ∈ members, m.1 ≠ f.name.toList) (slot : Option f.Value) :
    Fill (f :: fs) (slot, slots) members (slot, last) := by
  induction h with
  | nil slots => exact .nil _
  | cons hhead htail ih =>
      rw [List.forall_mem_cons] at hne
      refine .cons (fun rest hrest => ?_) (ih hne.2)
      rw [readInto, if_neg hne.1, hhead rest hrest]
      rfl

theorem takes_first {f : Field} {v : f.Value} (hv : f.codec.Restores v) {fs : List Field}
    (slots : Slots fs) :
    Takes (f :: fs) (none, slots) f.name.toList (':' :: f.codec.write v) (some v, slots) := by
  intro rest hrest
  have hcolon : readColon (':' :: f.codec.write v ++ rest) = .ok (f.codec.write v ++ rest) := by
    rw [List.cons_append, readColon, skipBlanks_cons (by decide)]
    rfl
  have hmember : f.readMember false (':' :: f.codec.write v ++ rest) = .ok (v, rest) := by
    simp only [Field.readMember, hcolon, hv.run_append rest hrest]
    rfl
  rw [readInto, if_pos rfl, Option.isSome_none, hmember]
  rfl

end Slots

namespace Row

theorem restores_of_forall {fs : List Field} (h : ∀ f ∈ fs, ∀ v, f.codec.Restores v)
    (row : Row fs) : Row.Restores fs row := by
  induction fs with
  | nil => trivial
  | cons f fs ih =>
      rw [List.forall_mem_cons] at h
      exact ⟨h.1 row.1, ih h.2 row.2⟩

theorem map_fst_members (fs : List Field) (row : Row fs) :
    (members fs row).map Prod.fst = fs.map fun f => f.name.toList := by
  induction fs with
  | nil => rfl
  | cons f fs ih =>
      obtain ⟨v, row⟩ := row
      rw [members, List.map_cons, List.map_cons, ih]

theorem writeMembers_eq (fs : List Field) (row : Row fs) :
    Layout.writeMembers fs row =
      (members fs row).map fun m => writeText m.1 ++ m.2 := by
  induction fs with
  | nil => rfl
  | cons f fs ih =>
      obtain ⟨v, row⟩ := row
      rw [Layout.writeMembers, members, List.map_cons, ih]

theorem restores_readItems {items : Expected} {fs : List Field}
    (hfields : ∀ f ∈ fs, f.Lawful) {index : Nat} {s rest : List Char} {row : Row fs}
    (h : Layout.readItems items fs index s = .ok (row, rest)) : Row.Restores fs row := by
  induction fs generalizing index s rest with
  | nil => trivial
  | cons f fs ih =>
      rw [List.forall_mem_cons] at hfields
      unfold Layout.readItems at h
      split at h
      · cases h
      · split at h
        · cases h
        · rename_i v s2 hv
          split at h
          · cases h
          · rename_i row' rest' hrow
            cases h
            exact ⟨hfields.1.sound hv, ih hfields.2 hrow⟩

/-- The members of a row fill the slots of all fields. -/
theorem fill_members {fs : List Field} {row : Row fs} (hnames : (fs.map Field.name).Nodup)
    (hrow : Row.Restores fs row) :
    Slots.Fill fs (Slots.empty fs) (members fs row) (Slots.filled fs row) := by
  induction fs with
  | nil => exact .nil _
  | cons f fs ih =>
      obtain ⟨v, row⟩ := row
      rw [List.map_cons, List.nodup_cons] at hnames
      -- the members of the other fields pass by the first slot, for its name is not theirs
      have hne : ∀ m ∈ members fs row, m.1 ≠ f.name.toList := by
        intro m hm hkey
        have hmem := List.mem_map_of_mem (f := Prod.fst) hm
        rw [map_fst_members, List.mem_map] at hmem
        obtain ⟨g, hg, hname⟩ := hmem
        rw [hkey, String.toList_inj] at hname
        exact hnames.1 (hname ▸ List.mem_map_of_mem hg)
      exact .cons (Slots.takes_first hrow.1 _) ((ih hnames.2 hrow.2).under hne (some v))

end Row

namespace Layout

variable {α : Type} {layout : Layout α}

/-- What lets a layout read its own records: fields that are told apart by their names and
are lawful themselves, and rows from which the records can be built. -/
structure Lawful (layout : Layout α) : Prop where
  names_nodup : (layout.fields.map Field.name).Nodup
  fields_lawful : ∀ f ∈ layout.fields, f.Lawful
  build_row : ∀ a, layout.build (layout.row a) = .ok a
  restores_row : ∀ {row a}, Row.Restores layout.fields row → layout.build row = .ok a →
    Row.Restores layout.fields (layout.row a)

theorem takes_memberReader {slots next : Slots layout.fields} {key text : List Char}
    (h : Slots.Takes layout.fields slots key text next) :
    (layout.memberReader slots).Takes (writeText key ++ text) next where
  opens := (opens_writeText key).append text
  run_append rest hrest := by
    show layout.readMember slots (writeText key ++ text ++ rest) = .ok (next, rest)
    have hkey : readKey (writeText key ++ text ++ rest) = .ok (key, text ++ rest) := by
      rw [List.append_assoc, writeText_append, readKey]
      exact readText_flatMap_writeChar key (text ++ rest)
    simp only [Layout.readMember, hkey, h rest hrest]

theorem reads_of_fill {slots last : Slots layout.fields}
    {members : List (List Char × List Char)}
    (h : Slots.Fill layout.fields slots members last) :
    Enclosure.Reads layout.memberReader slots
      (members.map fun m => writeText m.1 ++ m.2) last := by
  induction h with
  | nil slots => exact .nil slots
  | cons hhead htail ih => exact .cons (takes_memberReader hhead) ih

theorem restores_memberReader (hfields : ∀ f ∈ layout.fields, f.Lawful)
    {slots next : Slots layout.fields} {s rest : List Char}
    (hslots : Slots.Restores layout.fields slots)
    (h : (layout.memberReader slots).run s = .ok (next, rest)) :
    Slots.Restores layout.fields next := by
  replace h : layout.readMember slots s = .ok (next, rest) := h
  unfold Layout.readMember at h
  split at h
  · cases h
  · split at h
    · rename_i result hresult
      rw [h] at hresult
      exact Slots.restores_readInto hfields hslots hresult
    · split at h
      · cases h
      · split at h
        · cases h
        · split at h
          · cases h
          · cases h
            exact hslots

/-- A record is restored if the values of its fields are. -/
theorem Lawful.restores (h : layout.Lawful) {a : α}
    (hrow : Row.Restores layout.fields (layout.row a)) : layout.codec.Restores a where
  opens := ⟨'\x7b', _, rfl, by decide⟩
  run_append rest _ := by
    have htext : layout.codec.write a ++ rest = '\x7b' ::
        (separated (writeMembers layout.fields (layout.row a)) ++ '\x7d' :: rest) := by
      simp [codec]
    have hfold : Enclosure.object.fold layout.memberReader (Slots.empty layout.fields)
        (separated (writeMembers layout.fields (layout.row a)) ++ '\x7d' :: rest) =
        .ok (Slots.filled layout.fields (layout.row a), rest) := by
      rw [Row.writeMembers_eq]
      exact Enclosure.fold_of_reads (reads_of_fill (Row.fill_members h.names_nodup hrow)) rest
    show layout.read (layout.codec.write a ++ rest) = .ok (a, rest)
    rw [htext, read, skipBlanks_cons (by decide)]
    show layout.readObject _ = .ok (a, rest)
    simp only [readObject, hfold, Slots.complete_filled, Except.bind, h.build_row]

/-- The values of a record that is read are restored, be it from an object or a list. -/
theorem Lawful.row_restores (h : layout.Lawful) {s rest : List Char} {a : α}
    (hread : layout.read s = .ok (a, rest)) : Row.Restores layout.fields (layout.row a) := by
  unfold read at hread
  split at hread
  · unfold readObject at hread
    split at hread
    · cases hread
    · rename_i slots rest' hfold
      split at hread
      · cases hread
      · rename_i a' hbuild
        cases hread
        -- that the values met so far are restored is what each member keeps
        have hslots := Enclosure.keeps_fold (restores_memberReader h.fields_lawful)
          (Slots.restores_empty layout.fields) hfold
        cases hrow : Slots.complete layout.fields slots with
        | error found => rw [hrow] at hbuild; cases hbuild
        | ok row =>
            rw [hrow] at hbuild
            exact h.restores_row (Slots.restores_complete h.fields_lawful hslots hrow) hbuild
  · unfold readRow at hread
    split at hread
    · cases hread
    · rename_i row rest' hitems
      split at hread
      · cases hread
      · rename_i a' hbuild
        obtain ⟨rest'', -, heq⟩ := exists_of_map_eq_ok hread
        cases heq
        exact h.restores_row (Row.restores_readItems h.fields_lawful hitems) hbuild
  · exact absurd hread wrongType_ne_ok

theorem Lawful.sound (h : layout.Lawful) : layout.codec.Sound :=
  fun hread => h.restores (h.row_restores hread)

/-- What lets a layout read its own records whatever they hold: fields that are told apart by
their names and restore all their values. -/
structure Total (layout : Layout α) : Prop where
  names_nodup : (layout.fields.map Field.name).Nodup
  fields_restore : ∀ f ∈ layout.fields, ∀ v, f.codec.Restores v
  build_row : ∀ a, layout.build (layout.row a) = .ok a

theorem Total.lawful (h : layout.Total) : layout.Lawful where
  names_nodup := h.names_nodup
  fields_lawful f hf := .of_restores (h.fields_restore f hf)
  build_row := h.build_row
  restores_row _ _ := Row.restores_of_forall h.fields_restore _

theorem Total.restores (h : layout.Total) (a : α) : layout.codec.Restores a :=
  h.lawful.restores (Row.restores_of_forall h.fields_restore _)

end Layout

end SensorGateway.Wire
