import SensorGateway.Json.Skip
import SensorGateway.Measurement
import SensorGateway.Uuid

/-!
Typed data in documents: the reader of a type says what it came upon where it expected
something else. `Codec` joins a reader with the form in which values are written.
-/

namespace SensorGateway.Wire

open Json

structure Codec (α : Type) where
  reader : Reader α
  write : α → List Char

def Codec.decode {α : Type} (codec : Codec α) (document : List Char) : Except Fault α :=
  match codec.reader.run document with
  | .error fault => .error fault
  | .ok (a, rest) => readEnd a rest

/-- What stands at the front of a text: a scalar is read, brackets are only noticed. -/
def findAhead : List Char → Except Fault Found
  | [] => .error (.atEnd .endInValue)
  | 'n' :: s => (readWord ['u', 'l', 'l'] s).map fun _ => .null
  | 't' :: s => (readWord ['r', 'u', 'e'] s).map fun _ => .boolean true
  | 'f' :: s => (readWord ['a', 'l', 's', 'e'] s).map fun _ => .boolean false
  | '"' :: s => (readText s).map fun (cs, _) => .text cs
  | '[' :: _ => .ok .list
  | '\x7b' :: _ => .ok .object
  | c :: s =>
    if c = '-' ∨ c.isDigit then (readNumber (c :: s)).map fun (n, _) => .number n
    else .error (.shownBy .noValue (c :: s))

def wrongType {α : Type} (expected : Expected) (s : List Char) : Except Fault α :=
  match findAhead s with
  | .error fault => .error fault
  | .ok found => .error (.mismatch (.wrongType found expected) s)

theorem wrongType_ne_ok {α : Type} {expected : Expected} {s : List Char} {a : α} :
    wrongType expected s ≠ .ok a := by
  unfold wrongType
  split <;> simp

/-- Reads a text where the given thing was expected. -/
def readQuoted (expected : Expected) (s : List Char) : Except Fault (List Char × List Char) :=
  match skipBlanks s with
  | '"' :: r => readText r
  | r => wrongType expected r

theorem length_of_readQuoted {expected : Expected} {s cs rest : List Char}
    (h : readQuoted expected s = .ok (cs, rest)) : rest.length < s.length := by
  unfold readQuoted at h
  split at h
  · rename_i r hs
    have h1 := length_lt_of_skipBlanks hs
    have h2 := length_of_readText h
    omega
  · exact absurd h wrongType_ne_ok

/-- A reader of texts that stand for something, or are refused for a reason. -/
def namedReader {α : Type} (expected : Expected) (parse : List Char → Except String α) :
    Reader α where
  run s :=
    match readQuoted expected s with
    | .error fault => .error fault
    | .ok (cs, rest) =>
      match parse cs with
      | .error reason => .error (.mismatch (.refused reason) rest)
      | .ok a => .ok (a, rest)
  progress {s a rest} h := by
    split at h
    · cases h
    · rename_i cs rest' hq
      split at h
      · cases h
      · cases h
        exact length_of_readQuoted hq

def text : Codec String where
  reader := namedReader .text fun cs => .ok (String.ofList cs)
  write s := writeText s.toList

def objectId : Codec ObjectId where
  reader := namedReader .text fun cs =>
    (ObjectId.identify (String.ofList cs)).mapError IdentityError.message
  write id := writeText id.display.toList

def uuid : Codec Uuid where
  reader := namedReader .uuid fun cs =>
    match Uuid.parse? (String.ofList cs) with
    | some id => .ok id
    | none => .error "UUID parsing failed"
  write id := writeText id.display.toList

def readFlag (s : List Char) : Except Fault (Bool × List Char) :=
  match skipBlanks s with
  | 't' :: r => (readWord ['r', 'u', 'e'] r).map fun rest => (true, rest)
  | 'f' :: r => (readWord ['a', 'l', 's', 'e'] r).map fun rest => (false, rest)
  | r => wrongType .boolean r

theorem length_of_readFlag {s rest : List Char} {b : Bool}
    (h : readFlag s = .ok (b, rest)) : rest.length < s.length := by
  unfold readFlag at h
  split at h
  · rename_i r hs
    have h1 := length_lt_of_skipBlanks hs
    obtain ⟨a, ha, heq⟩ := exists_of_map_eq_ok h
    cases heq
    have := length_of_readWord ha
    omega
  · rename_i r hs
    have h1 := length_lt_of_skipBlanks hs
    obtain ⟨a, ha, heq⟩ := exists_of_map_eq_ok h
    cases heq
    have := length_of_readWord ha
    omega
  · exact absurd h wrongType_ne_ok

def flag : Codec Bool where
  reader := ⟨readFlag, length_of_readFlag⟩
  write b := (if b then "true" else "false").toList

def readWordOf (name : String) (max : Nat) (s : List Char) :
    Except Fault (Nat × List Char) :=
  match skipBlanks s with
  | [] => .error (.atEnd .endInValue)
  | c :: r =>
    if c = '-' ∨ c.isDigit then
      match readNumber (c :: r) with
      | .error fault => .error fault
      | .ok (.natural n, rest) =>
        if n ≤ max then .ok (n, rest)
        else .error (.mismatch (.outOfRange (.natural n) (.word name)) rest)
      | .ok (.negative n, rest) =>
        .error (.mismatch (.outOfRange (.negative n) (.word name)) rest)
      | .ok (.real minus x, rest) =>
        .error (.mismatch (.wrongType (.number (.real minus x)) (.word name)) rest)
    else wrongType (.word name) (c :: r)

theorem length_of_readWordOf {name : String} {max n : Nat} {s rest : List Char}
    (h : readWordOf name max s = .ok (n, rest)) : rest.length < s.length := by
  have hle := length_skipBlanks_le s
  unfold readWordOf at h
  split at h
  · cases h
  · rename_i c r hs
    rw [hs] at hle
    split at h
    · split at h
      · cases h
      · rename_i hn
        split at h
        · cases h
          have := length_of_readNumber hn
          omega
        · cases h
      · cases h
      · cases h
    · exact absurd h wrongType_ne_ok

/-- Natural numbers up to a largest one, under the name that messages give them. -/
def word (name : String) (max : Nat) : Codec Nat where
  reader := ⟨readWordOf name max, length_of_readWordOf⟩
  write n := Nat.toDigits 10 n

def count : Codec Nat := word "usize" maxWord

/-- Instants and seconds. -/
def long : Codec Nat := word "u64" maxWord

/-- Reads nothing as `null`, or else what is there. -/
def readOptional {α : Type} (item : Reader α) (s : List Char) :
    Except Fault (Option α × List Char) :=
  match skipBlanks s with
  | 'n' :: r => (readWord ['u', 'l', 'l'] r).map fun rest => (none, rest)
  | _ => (item.run s).map fun (a, rest) => (some a, rest)

theorem length_of_readOptional {α : Type} {item : Reader α} {s rest : List Char}
    {a : Option α} (h : readOptional item s = .ok (a, rest)) : rest.length < s.length := by
  unfold readOptional at h
  split at h
  · rename_i r hs
    have h1 := length_lt_of_skipBlanks hs
    obtain ⟨a, ha, heq⟩ := exists_of_map_eq_ok h
    cases heq
    have := length_of_readWord ha
    omega
  · obtain ⟨a, ha, heq⟩ := exists_of_map_eq_ok h
    cases heq
    exact item.progress ha

def optional {α : Type} (item : Codec α) : Codec (Option α) where
  reader := ⟨readOptional item.reader, length_of_readOptional⟩
  write
    | none => "null".toList
    | some a => item.write a

def separated : List (List Char) → List Char
  | [] => []
  | [a] => a
  | a :: as => a ++ ',' :: separated as

def readList {α : Type} (item : Reader α) (s : List Char) :
    Except Fault (List α × List Char) :=
  match skipBlanks s with
  | '[' :: r => Enclosure.list.readItems item r
  | r => wrongType .list r

theorem length_of_readList {α : Type} {item : Reader α} {s rest : List Char}
    {items : List α} (h : readList item s = .ok (items, rest)) : rest.length < s.length := by
  unfold readList at h
  split at h
  · rename_i r hs
    have h1 := length_lt_of_skipBlanks hs
    have h2 := Enclosure.length_of_readItems h
    omega
  · exact absurd h wrongType_ne_ok

def listOf {α : Type} (item : Codec α) : Codec (List α) where
  reader := ⟨readList item.reader, length_of_readList⟩
  write items := '[' :: separated (items.map item.write) ++ [']']

end SensorGateway.Wire
