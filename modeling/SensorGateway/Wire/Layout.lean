import SensorGateway.Wire.Codec

/-!
Records in documents. A `Layout` names the fields of a record in order. It is written as an
object, and read from an object, whose members may come in any order, or from a list of the
values of its fields.
-/

namespace SensorGateway.Wire

open Json

/-- A field of a record: its name, the form of its values and the value it has where a
document does not mention it, if it may be left out. -/
structure Field where
  name : String
  {Value : Type}
  codec : Codec Value
  absent : Option Value := none

def Row : List Field → Type
  | [] => Unit
  | f :: fs => f.Value × Row fs

/-- A value for each field that was met so far. -/
def Slots : List Field → Type
  | [] => Unit
  | f :: fs => Option f.Value × Slots fs

def Slots.empty : (fs : List Field) → Slots fs
  | [] => ()
  | _ :: fs => (none, Slots.empty fs)

/-- The row of the values met, or else the first field that is missing. -/
def Slots.complete : (fs : List Field) → Slots fs → Except Mismatch (Row fs)
  | [], () => .ok ()
  | f :: fs, (slot, slots) =>
    match slot <|> f.absent with
    | none => .error (.missingField f.name)
    | some v =>
      match Slots.complete fs slots with
      | .error found => .error found
      | .ok row => .ok (v, row)

/-- Reads the colon and the value of a member, unless its field was met before. -/
def Field.readMember (f : Field) (met : Bool) (s : List Char) :
    Except Fault (f.Value × List Char) :=
  if met then .error (.mismatch (.duplicateField f.name) s)
  else
    match readColon s with
    | .error fault => .error fault
    | .ok s' => f.codec.reader.run s'

theorem Field.length_of_readMember {f : Field} {met : Bool} {s rest : List Char}
    {v : f.Value} (h : f.readMember met s = .ok (v, rest)) : rest.length < s.length := by
  unfold readMember at h
  split at h
  · cases h
  · split at h
    · cases h
    · rename_i s' hc
      have h1 := length_of_readColon hc
      have h2 := f.codec.reader.progress h
      omega

/-- Reads the member with the given key, from after the key, into the slot of its field. The
outer result is none if no field has this name. -/
def Slots.readInto (key : List Char) (s : List Char) :
    (fs : List Field) → Slots fs → Option (Except Fault (Slots fs × List Char))
  | [], () => none
  | f :: fs, (slot, slots) =>
    if key = f.name.toList then
      some ((f.readMember slot.isSome s).map fun (v, rest) => ((some v, slots), rest))
    else
      (Slots.readInto key s fs slots).map fun result =>
        result.map fun (slots', rest) => ((slot, slots'), rest)

theorem Slots.length_of_readInto {key s rest : List Char} {fs : List Field}
    {slots slots' : Slots fs} (h : Slots.readInto key s fs slots = some (.ok (slots', rest))) :
    rest.length < s.length := by
  fun_induction Slots.readInto key s fs slots with
  | case1 => cases h
  | case2 f fs slot slots hk =>
    obtain ⟨a, ha, heq⟩ := exists_of_map_eq_ok (Option.some.inj h)
    cases heq
    exact Field.length_of_readMember ha
  | case3 f fs slot slots hk ih =>
    obtain ⟨result, hr, heq⟩ := Option.map_eq_some_iff.1 h
    obtain ⟨a, ha, heq⟩ := exists_of_map_eq_ok heq
    cases heq
    rw [ha] at hr
    exact ih hr

structure Layout (α : Type) where
  /-- The name of the record in messages. -/
  label : String
  fields : List Field
  /-- Whether members of other names are refused. -/
  closed : Bool := false
  /-- What a list with too few items should have been. -/
  items : Expected := .fields label fields.length
  row : α → Row fields
  build : Row fields → Except Mismatch α

namespace Layout

variable {α : Type} (layout : Layout α)

/-- Reads a member into the slot of its field, and passes over a member of another name. -/
def readMember (slots : Slots layout.fields) (s : List Char) :
    Except Fault (Slots layout.fields × List Char) :=
  match readKey s with
  | .error fault => .error fault
  | .ok (key, s1) =>
    match Slots.readInto key s1 layout.fields slots with
    | some result => result
    | none =>
      if layout.closed then
        .error (.mismatch (.unknownField key (layout.fields.map Field.name)) s1)
      else
        match readColon s1 with
        | .error fault => .error fault
        | .ok s2 =>
          match skipReader.run s2 with
          | .error fault => .error fault
          | .ok ((), rest) => .ok (slots, rest)

theorem length_of_readMember {slots slots' : Slots layout.fields} {s rest : List Char}
    (h : layout.readMember slots s = .ok (slots', rest)) : rest.length < s.length := by
  unfold readMember at h
  split at h
  · cases h
  · rename_i key s1 hk
    have h1 := length_of_readKey hk
    split at h
    · rename_i result hr
      rw [h] at hr
      have h2 := Slots.length_of_readInto hr
      omega
    · split at h
      · cases h
      · split at h
        · cases h
        · rename_i s2 hc
          split at h
          · cases h
          · rename_i rest' hv
            cases h
            have h2 := length_of_readColon hc
            have h3 := skipReader.progress hv
            omega

def memberReader (slots : Slots layout.fields) : Reader (Slots layout.fields) where
  run := layout.readMember slots
  progress := layout.length_of_readMember

def readObject (s : List Char) : Except Fault (α × List Char) :=
  match Enclosure.object.fold layout.memberReader (Slots.empty layout.fields) s with
  | .error fault => .error fault
  | .ok (slots, rest) =>
    match (Slots.complete layout.fields slots).bind layout.build with
    | .error found => .error (.mismatch found rest)
    | .ok a => .ok (a, rest)

/-- Reads what separates the item of the given number from the one before it. -/
def readSeparator (items : Expected) (index : Nat) (s : List Char) :
    Except Fault (List Char) :=
  match skipBlanks s with
  | [] => .error (.atEnd .endInList)
  | c :: r =>
    if c = ']' then .error (.mismatch (.wrongLength index items) (c :: r))
    else if index = 0 then .ok (c :: r)
    else if c = ',' then
      match skipBlanks r with
      | [] => .error (.atEnd .endInValue)
      | d :: t =>
        if d = ']' then .error (.shownBy .trailingComma (d :: t)) else .ok (d :: t)
    else .error (.shownBy .noCommaOrBracket (c :: r))

/-- Reads the values of the fields, the first of which has the given number. -/
def readItems (items : Expected) : (fs : List Field) → (index : Nat) → List Char →
    Except Fault (Row fs × List Char)
  | [], _, s => .ok ((), s)
  | f :: fs, index, s =>
    match readSeparator items index s with
    | .error fault => .error fault
    | .ok s1 =>
      match f.codec.reader.run s1 with
      | .error fault => .error fault
      | .ok (v, s2) =>
        match readItems items fs (index + 1) s2 with
        | .error fault => .error fault
        | .ok (row, rest) => .ok ((v, row), rest)

/-- Reads the end of a list from which no more items are wanted. -/
def readClosing (s : List Char) : Except Fault (List Char) :=
  match skipBlanks s with
  | [] => .error (.atEnd .endInList)
  | c :: r =>
    if c = ']' then .ok r
    else if c = ',' then
      match skipBlanks r with
      | ']' :: t => .error (.shownBy .trailingComma (']' :: t))
      | t => .error (.shownBy .trailingCharacters t)
    else .error (.shownBy .trailingCharacters (c :: r))

/-- Reads a record from a list, after its opening bracket. -/
def readRow (s : List Char) : Except Fault (α × List Char) :=
  match readItems layout.items layout.fields 0 s with
  | .error fault => .error fault
  | .ok (row, rest) =>
    match layout.build row with
    | .error found => .error (.mismatch found rest)
    | .ok a => (readClosing rest).map fun rest' => (a, rest')

def read (s : List Char) : Except Fault (α × List Char) :=
  match skipBlanks s with
  | '\x7b' :: r => layout.readObject r
  | '[' :: r => layout.readRow r
  | r => wrongType (.record layout.label) r

theorem length_of_readSeparator {items : Expected} {index : Nat} {s rest : List Char}
    (h : readSeparator items index s = .ok rest) : rest.length ≤ s.length := by
  have hle := length_skipBlanks_le s
  unfold readSeparator at h
  split at h
  · cases h
  · rename_i c r hs
    rw [hs] at hle
    split at h
    · cases h
    · split at h
      · cases h
        exact hle
      · split at h
        · split at h
          · cases h
          · rename_i d t ht
            have h1 := length_skipBlanks_le r
            rw [ht] at h1
            split at h
            · cases h
            · cases h
              simp only [List.length_cons] at hle h1 ⊢
              omega
        · cases h

theorem length_of_readItems {items : Expected} {fs : List Field} {index : Nat}
    {s rest : List Char} {row : Row fs} (h : readItems items fs index s = .ok (row, rest)) :
    rest.length ≤ s.length := by
  induction fs generalizing index s rest with
  | nil =>
    cases h
    exact Nat.le_refl _
  | cons f fs ih =>
    unfold readItems at h
    split at h
    · cases h
    · rename_i s1 h1
      split at h
      · cases h
      · rename_i v s2 h2
        split at h
        · cases h
        · rename_i row' rest' h3
          cases h
          have := length_of_readSeparator h1
          have := f.codec.reader.progress h2
          have := ih h3
          omega

theorem length_of_readClosing {s rest : List Char} (h : readClosing s = .ok rest) :
    rest.length < s.length := by
  unfold readClosing at h
  split at h
  · cases h
  · rename_i c r hs
    split at h
    · cases h
      exact length_lt_of_skipBlanks hs
    · split at h
      · split at h <;> cases h
      · cases h

theorem length_of_read {s rest : List Char} {a : α} (h : layout.read s = .ok (a, rest)) :
    rest.length < s.length := by
  unfold read at h
  split at h
  · rename_i r hs
    have h1 := length_lt_of_skipBlanks hs
    unfold readObject at h
    split at h
    · cases h
    · rename_i slots rest' hf
      have h2 := Enclosure.length_of_fold hf
      split at h
      · cases h
      · cases h
        omega
  · rename_i r hs
    have h1 := length_lt_of_skipBlanks hs
    unfold readRow at h
    split at h
    · cases h
    · rename_i row rest' hf
      have h2 := length_of_readItems hf
      split at h
      · cases h
      · obtain ⟨r', hr, heq⟩ := exists_of_map_eq_ok h
        cases heq
        have h3 := length_of_readClosing hr
        omega
  · exact absurd h wrongType_ne_ok

def writeMembers : (fs : List Field) → Row fs → List (List Char)
  | [], () => []
  | f :: fs, (v, row) =>
    (writeText f.name.toList ++ ':' :: f.codec.write v) :: writeMembers fs row

def codec : Codec α where
  reader := ⟨layout.read, layout.length_of_read⟩
  write a := '\x7b' :: separated (writeMembers layout.fields (layout.row a)) ++ ['\x7d']

end Layout

end SensorGateway.Wire
