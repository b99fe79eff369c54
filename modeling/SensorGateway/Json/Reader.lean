import SensorGateway.Json.Fault

/-!
Readers take one item off the front of a text. Each one uses up at least one character,
which is why the loop over the items between two brackets ends.
-/

namespace SensorGateway.Json

structure Reader (α : Type) where
  run : List Char → Except Fault (α × List Char)
  progress : ∀ {s a rest}, run s = .ok (a, rest) → rest.length < s.length

/-- The characters that may stand between the signs of a document. -/
def isBlank (c : Char) : Bool :=
  c = ' ' || c = '\t' || c = '\n' || c = '\r'

def skipBlanks (s : List Char) : List Char :=
  s.dropWhile isBlank

theorem length_skipBlanks_le (s : List Char) : (skipBlanks s).length ≤ s.length :=
  (List.dropWhile_sublist isBlank).length_le

theorem length_lt_of_skipBlanks {s r : List Char} {c : Char} (h : skipBlanks s = c :: r) :
    r.length < s.length := by
  have hle := length_skipBlanks_le s
  rw [h] at hle
  exact hle

/-- The two kinds of brackets around items with commas between them. -/
inductive Enclosure where
  | list
  | object
  deriving DecidableEq, Repr

namespace Enclosure

def closing : Enclosure → Char
  | .list => ']'
  | .object => '\x7d'

/-- The breach of a text that ends before the closing bracket. -/
def unfinished : Enclosure → Breach
  | .list => .endInList
  | .object => .endInObject

/-- The breach of an item with neither a comma nor the closing bracket after it. -/
def unseparated : Enclosure → Breach
  | .list => .noCommaOrBracket
  | .object => .noCommaOrBrace

/-- Reads what follows an item: the closing bracket, or a comma and further items. What
was read so far decides how the next item is read. -/
def foldMore {σ : Type} (b : Enclosure) (item : σ → Reader σ) (state : σ) (s : List Char) :
    Except Fault (σ × List Char) :=
  match _hs : skipBlanks s with
  | [] => .error (.atEnd b.unfinished)
  | c :: r =>
    if c = b.closing then .ok (state, r)
    else if c = ',' then
      match _hr : skipBlanks r with
      | [] => .error (.atEnd .endInValue)
      | d :: t =>
        if d = b.closing then .error (.shownBy .trailingComma (d :: t))
        else
          match _hi : (item state).run (d :: t) with
          | .error fault => .error fault
          | .ok (next, rest) => b.foldMore item next rest
    else .error (.shownBy b.unseparated (c :: r))
termination_by s.length
decreasing_by
  have h1 := length_lt_of_skipBlanks _hs
  have h2 := length_skipBlanks_le r
  have h3 := (item state).progress _hi
  rw [_hr] at h2
  omega

def fold {σ : Type} (b : Enclosure) (item : σ → Reader σ) (state : σ) (s : List Char) :
    Except Fault (σ × List Char) :=
  match skipBlanks s with
  | [] => .error (.atEnd b.unfinished)
  | c :: r =>
    if c = b.closing then .ok (state, r)
    else
      match (item state).run (c :: r) with
      | .error fault => .error fault
      | .ok (next, rest) => b.foldMore item next rest

theorem length_of_foldMore {σ : Type} {b : Enclosure} {item : σ → Reader σ} {state last : σ}
    {s rest : List Char} (h : b.foldMore item state s = .ok (last, rest)) :
    rest.length < s.length := by
  fun_induction foldMore b item state s with
  | case1 => cases h
  | case2 state s r hs =>
    cases h
    exact length_lt_of_skipBlanks hs
  | case3 => cases h
  | case4 => cases h
  | case5 => cases h
  | case6 state s r d t hr hd next rest' hi hs hc ih =>
    have h1 := length_lt_of_skipBlanks hs
    have h2 := length_skipBlanks_le r
    have h3 := (item state).progress hi
    have h4 := ih h
    rw [hr] at h2
    omega
  | case7 => cases h

theorem length_of_fold {σ : Type} {b : Enclosure} {item : σ → Reader σ} {state last : σ}
    {s rest : List Char} (h : b.fold item state s = .ok (last, rest)) :
    rest.length < s.length := by
  unfold fold at h
  split at h
  · cases h
  · rename_i c r hs
    have h1 := length_skipBlanks_le s
    rw [hs] at h1
    split at h
    · cases h
      exact h1
    · split at h
      · cases h
      · rename_i next rest' hi
        have h2 := (item state).progress hi
        have h3 := length_of_foldMore h
        omega

end Enclosure

end SensorGateway.Json
