import SensorGateway.Json.Document
import SensorGateway.Proofs.Text.Hex
import SensorGateway.Wire.Codec

/-!
Documents as they are written. A tree keeps all that the value of a document leaves out: the
blanks, the spelling of characters, the parts of numbers. `written` writes a tree down, so the
texts of trees are the documents of the grammar, and `value?` says what a tree means. The
type of a tree bounds how deep its brackets are nested.
-/

namespace SensorGateway.Json

/-- Any number of spaces, tabs, line feeds and carriage returns. -/
structure Blanks where
  chars : List Char
  blank : ∀ c ∈ chars, c = ' ' ∨ c = '\t' ∨ c = '\n' ∨ c = '\r'

namespace Blanks

def none : Blanks :=
  ⟨[], by simp⟩

def append (a b : Blanks) : Blanks :=
  ⟨a.chars ++ b.chars, fun c hc => (List.mem_append.1 hc).elim (a.blank c) (b.blank c)⟩

theorem append_none (a : Blanks) : a.append none = a := by
  cases a
  simp [append, none]

end Blanks

/-! ### Texts -/

structure HexDigit where
  char : Char
  isDigit : Text.Hex.IsDigit char

/-- The letters of escapes and the characters that they stand for. -/
def escapes : List (Char × Char) :=
  [('"', '"'), ('\\', '\\'), ('/', '/'), ('b', '\x08'), ('f', '\x0c'), ('n', '\n'),
    ('r', '\r'), ('t', '\t')]

/-- One piece of a text between quotes. -/
inductive Piece where
  /-- A character that stands for itself. -/
  | plain (c : Char) (h : c ≠ '"' ∧ c ≠ '\\' ∧ ¬c < ' ')
  /-- An escape with a letter. -/
  | letter (l c : Char) (h : (l, c) ∈ escapes)
  /-- An escape with four digits. -/
  | unit (a b c d : HexDigit)

namespace Piece

def written : Piece → List Char
  | .plain c _ => [c]
  | .letter l _ _ => ['\\', l]
  | .unit a b c d => ['\\', 'u', a.char, b.char, c.char, d.char]

@[irreducible] def number (a b c d : HexDigit) : Nat :=
  ((Text.Hex.value a.char * 16 + Text.Hex.value b.char) * 16 + Text.Hex.value c.char) * 16 +
    Text.Hex.value d.char

end Piece

/-- The characters that pieces stand for. There are none if half of a pair stands alone. -/
def characters? : List Piece → Option (List Char)
  | [] => some []
  | .plain c _ :: pieces => (characters? pieces).map (c :: ·)
  | .letter _ c _ :: pieces => (characters? pieces).map (c :: ·)
  | .unit a b c d :: pieces =>
    if isTrailing (Piece.number a b c d) then none
    else if isLeading (Piece.number a b c d) then
      match pieces with
      | .unit a' b' c' d' :: rest =>
        if isTrailing (Piece.number a' b' c' d') then
          (characters? rest).map (ofPair (Piece.number a b c d) (Piece.number a' b' c' d') :: ·)
        else none
      | _ => none
    else (characters? pieces).map (Char.ofNat (Piece.number a b c d) :: ·)

def quote (pieces : List Piece) : List Char :=
  '"' :: pieces.flatMap Piece.written ++ ['"']

/-! ### Numbers -/

structure Digits where
  chars : List Char
  ne_nil : chars ≠ []
  digits : ∀ c ∈ chars, c.isDigit = true

/-- The exponent of a number: its mark, its sign if it has one, and its digits. -/
structure Exponent where
  capital : Bool
  /-- Whether the sign, if there is one, is a minus. -/
  sign : Option Bool
  digits : Digits

namespace Exponent

def writtenSign : Option Bool → List Char
  | none => []
  | some false => ['+']
  | some true => ['-']

def written (e : Exponent) : List Char :=
  (if e.capital then 'E' else 'e') :: writtenSign e.sign ++ e.digits.chars

end Exponent

structure WrittenNumber where
  minus : Bool
  whole : Digits
  /-- A zero in front stands alone. -/
  zero_alone : ∀ ds, whole.chars = '0' :: ds → ds = []
  fraction : Option Digits
  exponent : Option Exponent

namespace WrittenNumber

def writtenFraction : Option Digits → List Char
  | none => []
  | some ds => '.' :: ds.chars

def writtenExponent : Option Exponent → List Char
  | none => []
  | some e => e.written

def written (n : WrittenNumber) : List Char :=
  (if n.minus then ['-'] else []) ++ n.whole.chars ++ writtenFraction n.fraction ++
    writtenExponent n.exponent

/-- The parts that the value of a number depends on. -/
def numeral (n : WrittenNumber) : Numeral where
  minus := n.minus
  whole := n.whole.chars
  fraction := (n.fraction.map Digits.chars).getD []
  exponent := n.exponent.map fun e => (e.sign.getD false, e.digits.chars)

end WrittenNumber

/-! ### Values -/

/-- A value without brackets. -/
inductive Scalar where
  | null
  | boolean (b : Bool)
  | number (n : WrittenNumber)
  | text (pieces : List Piece)

namespace Scalar

def written : Scalar → List Char
  | .null => "null".toList
  | .boolean true => "true".toList
  | .boolean false => "false".toList
  | .number n => n.written
  | .text pieces => quote pieces

def value? : Scalar → Option Value
  | .null => some .null
  | .boolean b => some (.boolean b)
  | .number n => n.numeral.number?.map .number
  | .text pieces => (characters? pieces).map .text

def InRange : Scalar → Prop
  | .number n => ∃ v, n.numeral.number? = some v
  | _ => True

/-- No half of a pair stands alone. -/
def Paired : Scalar → Prop
  | .text pieces => ∃ cs, characters? pieces = some cs
  | _ => True

end Scalar

structure Padded (α : Type) where
  before : Blanks
  content : α
  after : Blanks

def Padded.written {α : Type} (inner : α → List Char) (p : Padded α) : List Char :=
  p.before.chars ++ inner p.content ++ p.after.chars

/-- A member of an object: a key, a colon and a value, with blanks around the colon. -/
structure Member (α : Type) where
  key : List Piece
  beforeColon : Blanks
  afterColon : Blanks
  value : α

namespace Member

variable {α : Type}

def written (inner : α → List Char) (m : Member α) : List Char :=
  quote m.key ++ m.beforeColon.chars ++ ':' :: m.afterColon.chars ++ inner m.value

def value? (inner : α → Option Value) (m : Member α) : Option (List Char × Value) :=
  match characters? m.key, inner m.value with
  | some key, some v => some (key, v)
  | _, _ => none

end Member

/-- A value that may have brackets; what stands within them is given by the type. -/
inductive Node (α : Type) where
  | scalar (s : Scalar)
  /-- Items between brackets, with blanks after the opening one. -/
  | list (inside : Blanks) (items : List (Padded α))
  | object (inside : Blanks) (members : List (Padded (Member α)))

namespace Node

variable {α : Type}

def written (inner : α → List Char) : Node α → List Char
  | .scalar s => s.written
  | .list inside items =>
    '[' :: inside.chars ++ Wire.separated (items.map (Padded.written inner)) ++ [']']
  | .object inside members =>
    '\x7b' :: inside.chars ++ Wire.separated (members.map (Padded.written (Member.written inner))) ++
      ['\x7d']

def value? (inner : α → Option Value) : Node α → Option Value
  | .scalar s => s.value?
  | .list _ items => (items.mapM fun item => inner item.content).map .list
  | .object _ members => (members.mapM fun m : Padded (Member α) => m.content.value? inner).map .object

def InRange (inner : α → Prop) : Node α → Prop
  | .scalar s => s.InRange
  | .list _ items => ∀ item ∈ items, inner item.content
  | .object _ members => ∀ m ∈ members, inner m.content.value

def Paired (inner : α → Prop) : Node α → Prop
  | .scalar s => s.Paired
  | .list _ items => ∀ item ∈ items, inner item.content
  | .object _ members =>
    ∀ m ∈ members, (∃ cs, characters? m.content.key = some cs) ∧ inner m.content.value

end Node

/-- Values with brackets nested at most so deep. -/
def Tree : (depth : Nat) → Type
  | 0 => Scalar
  | depth + 1 => Node (Tree depth)

namespace Tree

def written : (depth : Nat) → Tree depth → List Char
  | 0 => Scalar.written
  | depth + 1 => Node.written (written depth)

/-- The value that is written, if all numbers are in range and all pairs complete. -/
def value? : (depth : Nat) → Tree depth → Option Value
  | 0 => Scalar.value?
  | depth + 1 => Node.value? (value? depth)

def InRange : (depth : Nat) → Tree depth → Prop
  | 0 => Scalar.InRange
  | depth + 1 => Node.InRange (InRange depth)

def Paired : (depth : Nat) → Tree depth → Prop
  | 0 => Scalar.Paired
  | depth + 1 => Node.Paired (Paired depth)

end Tree

/-- A document: one value, nested no deeper than allowed, and nothing else but blanks. -/
abbrev Document := Padded (Tree maxDepth)

namespace Document

def written (d : Document) : List Char :=
  Padded.written (Tree.written maxDepth) d

def value? (d : Document) : Option Value :=
  Tree.value? maxDepth d.content

def InRange (d : Document) : Prop :=
  Tree.InRange maxDepth d.content

def Paired (d : Document) : Prop :=
  Tree.Paired maxDepth d.content

end Document

/-! ### What has a value -/

section MapM

variable {α β : Type} {f : α → Option β}

theorem mapM_cons_eq_some_iff {a : α} {as : List α} {bs : List β} :
    (a :: as).mapM f = some bs ↔
      ∃ b bs', f a = some b ∧ as.mapM f = some bs' ∧ bs = b :: bs' := by
  rw [List.mapM_cons]
  cases f a <;> cases as.mapM f <;> simp [eq_comm]

theorem exists_mapM_iff {as : List α} :
    (∃ bs, as.mapM f = some bs) ↔ ∀ a ∈ as, ∃ b, f a = some b := by
  induction as with
  | nil => simp
  | cons a as ih =>
      rw [List.forall_mem_cons, ← ih]
      simp only [mapM_cons_eq_some_iff]
      constructor
      · rintro ⟨_, b, bs, hb, hbs, -⟩
        exact ⟨⟨b, hb⟩, bs, hbs⟩
      · rintro ⟨⟨b, hb⟩, bs, hbs⟩
        exact ⟨_, b, bs, hb, hbs, rfl⟩

end MapM

theorem Scalar.exists_value?_iff (s : Scalar) :
    (∃ v, s.value? = some v) ↔ s.InRange ∧ s.Paired := by
  cases s <;> simp [value?, InRange, Paired]

theorem Member.exists_value?_iff {α : Type} {inner : α → Option Value} (m : Member α) :
    (∃ kv, m.value? inner = some kv) ↔
      (∃ cs, characters? m.key = some cs) ∧ ∃ v, inner m.value = some v := by
  rw [value?]
  cases characters? m.key <;> cases inner m.value <;> simp

theorem Node.exists_value?_iff {α : Type} {inner : α → Option Value} {inRange paired : α → Prop}
    (hinner : ∀ a, (∃ v, inner a = some v) ↔ inRange a ∧ paired a) (n : Node α) :
    (∃ v, n.value? inner = some v) ↔ n.InRange inRange ∧ n.Paired paired := by
  cases n with
  | scalar s => exact s.exists_value?_iff
  | list inside items =>
      simp only [value?, InRange, Paired, Option.map_eq_some_iff]
      rw [← forall₂_and]
      simp only [← hinner]
      rw [← exists_mapM_iff]
      exact ⟨fun ⟨_, vs, hvs, _⟩ => ⟨vs, hvs⟩, fun ⟨vs, hvs⟩ => ⟨_, vs, hvs, rfl⟩⟩
  | object inside members =>
      simp only [value?, InRange, Paired, Option.map_eq_some_iff]
      rw [← forall₂_and]
      have hmember : ∀ m : Padded (Member α), (inRange m.content.value ∧
          (∃ cs, characters? m.content.key = some cs) ∧ paired m.content.value) ↔
          ∃ kv, m.content.value? inner = some kv := by
        intro m
        rw [Member.exists_value?_iff, hinner]
        tauto
      simp only [hmember]
      rw [← exists_mapM_iff]
      exact ⟨fun ⟨_, vs, hvs, _⟩ => ⟨vs, hvs⟩, fun ⟨vs, hvs⟩ => ⟨_, vs, hvs, rfl⟩⟩

/-- A tree has a value exactly if its numbers are in range and its pairs complete. -/
theorem Tree.exists_value?_iff (depth : Nat) (t : Tree depth) :
    (∃ v, t.value? depth = some v) ↔ t.InRange depth ∧ t.Paired depth := by
  induction depth with
  | zero => exact Scalar.exists_value?_iff t
  | succ depth ih => exact Node.exists_value?_iff ih t

end SensorGateway.Json
