import SensorGateway.Json.Numeral
import SensorGateway.Json.TextLiteral

/-!
Reading a document as a value. Brackets may be nested 127 deep, which is the measure by
which the reader recurses.
-/

namespace SensorGateway.Json

def readWord : (word : List Char) → List Char → Except Fault (List Char)
  | [], s => .ok s
  | _ :: _, [] => .error (.atEnd .endInValue)
  | w :: word, c :: s =>
    if c = w then readWord word s else .error (.shownBy .badLiteral (c :: s))

theorem length_of_readWord {word s rest : List Char} (h : readWord word s = .ok rest) :
    rest.length ≤ s.length := by
  induction word generalizing s with
  | nil =>
    cases h
    exact Nat.le_refl _
  | cons w word ih =>
    cases s with
    | nil => cases h
    | cons c s =>
      unfold readWord at h
      split at h
      · have := ih h
        simp only [List.length_cons]
        omega
      · cases h

def readKey : List Char → Except Fault (List Char × List Char)
  | '"' :: s => readText s
  | s => .error (.shownBy .keyNotText s)

theorem length_of_readKey {s key rest : List Char} (h : readKey s = .ok (key, rest)) :
    rest.length < s.length := by
  unfold readKey at h
  split at h
  · have := length_of_readText h
    simp only [List.length_cons]
    omega
  · cases h

def readColon (s : List Char) : Except Fault (List Char) :=
  match skipBlanks s with
  | [] => .error (.atEnd .endInObject)
  | c :: rest => if c = ':' then .ok rest else .error (.shownBy .noColon (c :: rest))

theorem length_of_readColon {s rest : List Char} (h : readColon s = .ok rest) :
    rest.length < s.length := by
  unfold readColon at h
  split at h
  · cases h
  · rename_i c r hs
    split at h
    · cases h
      exact length_lt_of_skipBlanks hs
    · cases h

/-- Reads a member whose value the given reader reads. -/
def readMember {α : Type} (value : Reader α) (s : List Char) :
    Except Fault ((List Char × α) × List Char) :=
  match readKey s with
  | .error fault => .error fault
  | .ok (key, s1) =>
    match readColon s1 with
    | .error fault => .error fault
    | .ok s2 =>
      match value.run s2 with
      | .error fault => .error fault
      | .ok (v, rest) => .ok ((key, v), rest)

theorem length_of_readMember {α : Type} {value : Reader α} {s rest : List Char}
    {m : List Char × α} (h : readMember value s = .ok (m, rest)) : rest.length < s.length := by
  unfold readMember at h
  split at h
  · cases h
  · rename_i key s1 h1
    split at h
    · cases h
    · rename_i s2 h2
      split at h
      · cases h
      · rename_i v rest' h3
        cases h
        have := length_of_readKey h1
        have := length_of_readColon h2
        have := value.progress h3
        omega

/-- Reads one more item in front of the items already read. -/
def Reader.onto {α : Type} (item : Reader α) (items : List α) : Reader (List α) where
  run s :=
    match item.run s with
    | .error fault => .error fault
    | .ok (a, rest) => .ok (a :: items, rest)
  progress {s a rest} h := by
    split at h
    · cases h
    · rename_i a' rest' hi
      cases h
      exact item.progress hi

def Enclosure.readItems {α : Type} (b : Enclosure) (item : Reader α) (s : List Char) :
    Except Fault (List α × List Char) :=
  match b.fold item.onto [] s with
  | .error fault => .error fault
  | .ok (items, rest) => .ok (items.reverse, rest)

theorem Enclosure.length_of_readItems {α : Type} {b : Enclosure} {item : Reader α}
    {s rest : List Char} {items : List α} (h : b.readItems item s = .ok (items, rest)) :
    rest.length < s.length := by
  unfold readItems at h
  split at h
  · cases h
  · rename_i items' rest' hf
    cases h
    exact length_of_fold hf

def memberReader {α : Type} (value : Reader α) : Reader (List Char × α) where
  run := readMember value
  progress := length_of_readMember

/-- Reads a value. The given reader reads the values within brackets; without one there may
be no more brackets. -/
def readValue (inner : Option (Reader Value)) (s : List Char) :
    Except Fault (Value × List Char) :=
  match skipBlanks s with
  | [] => .error (.atEnd .endInValue)
  | 'n' :: r => (readWord ['u', 'l', 'l'] r).map fun rest => (.null, rest)
  | 't' :: r => (readWord ['r', 'u', 'e'] r).map fun rest => (.boolean true, rest)
  | 'f' :: r => (readWord ['a', 'l', 's', 'e'] r).map fun rest => (.boolean false, rest)
  | '"' :: r => (readText r).map fun (cs, rest) => (.text cs, rest)
  | '[' :: r =>
    match inner with
    | none => .error (.shownBy .tooDeep ('[' :: r))
    | some value =>
      (Enclosure.list.readItems value r).map fun (items, rest) => (.list items, rest)
  | '\x7b' :: r =>
    match inner with
    | none => .error (.shownBy .tooDeep ('\x7b' :: r))
    | some value =>
      (Enclosure.object.readItems (memberReader value) r).map
        fun (members, rest) => (.object members, rest)
  | c :: r =>
    if c = '-' ∨ c.isDigit then
      (readNumber (c :: r)).map fun (n, rest) => (.number n, rest)
    else .error (.shownBy .noValue (c :: r))

theorem exists_of_map_eq_ok {ε α β : Type} {f : α → β} {x : Except ε α} {b : β}
    (h : x.map f = .ok b) : ∃ a, x = .ok a ∧ f a = b := by
  cases x with
  | error e => cases h
  | ok a => exact ⟨a, rfl, Except.ok.inj h⟩

/-- To change what was read does not change how much of the text is left. -/
theorem lt_of_map_eq_ok {α β : Type} {f : α → β × List Char} {x : Except Fault α}
    {v : β} {rest : List Char} {n : Nat} (h : x.map f = .ok (v, rest))
    (hx : ∀ a, x = .ok a → (f a).2.length < n) : rest.length < n := by
  obtain ⟨a, ha, heq⟩ := exists_of_map_eq_ok h
  have hlt := hx a ha
  rwa [heq] at hlt

theorem length_of_readValue {inner : Option (Reader Value)} {s rest : List Char} {v : Value}
    (h : readValue inner s = .ok (v, rest)) : rest.length < s.length := by
  have hle := length_skipBlanks_le s
  unfold readValue at h
  split at h
  · cases h
  -- the sign that tells the cases apart is taken in each of them
  all_goals rename_i hs; rw [hs] at hle
  · exact lt_of_map_eq_ok h fun _ ha => Nat.lt_of_le_of_lt (length_of_readWord ha) hle
  · exact lt_of_map_eq_ok h fun _ ha => Nat.lt_of_le_of_lt (length_of_readWord ha) hle
  · exact lt_of_map_eq_ok h fun _ ha => Nat.lt_of_le_of_lt (length_of_readWord ha) hle
  · exact lt_of_map_eq_ok h fun _ ha => Nat.lt_trans (length_of_readText ha) hle
  · split at h
    · cases h
    · exact lt_of_map_eq_ok h fun _ ha => Nat.lt_trans (Enclosure.length_of_readItems ha) hle
  · split at h
    · cases h
    · exact lt_of_map_eq_ok h fun _ ha => Nat.lt_trans (Enclosure.length_of_readItems ha) hle
  · split at h
    · exact lt_of_map_eq_ok h fun _ ha => Nat.lt_of_lt_of_le (length_of_readNumber ha) hle
    · cases h

/-- A reader of values with brackets nested at most so deep. -/
def valueReader : (depth : Nat) → Reader Value
  | 0 => ⟨readValue none, length_of_readValue⟩
  | depth + 1 => ⟨readValue (some (valueReader depth)), length_of_readValue⟩

/-- How deep the brackets of a document may be nested. -/
def maxDepth : Nat := 127

/-- Requires that nothing but blanks is left of a document. -/
def readEnd {α : Type} (result : α) (s : List Char) : Except Fault α :=
  match skipBlanks s with
  | [] => .ok result
  | rest => .error (.shownBy .trailingCharacters rest)

def parse (document : List Char) : Except Fault Value :=
  match (valueReader maxDepth).run document with
  | .error fault => .error fault
  | .ok (v, rest) => readEnd v rest

end SensorGateway.Json
