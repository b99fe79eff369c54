import SensorGateway.Json.Document

/-!
Passing over a value that nobody asked for. Only the grammar is checked: brackets may be
nested as deep as memory allows, numbers may be too large and the halves of a pair may
stand alone.
-/

namespace SensorGateway.Json

def skipEscape : List Char → Except Fault (List Char)
  | [] => .error (.atEnd .endInText)
  | 'u' :: s => (readQuad s).map (·.2)
  | c :: s =>
    if (ofLetter? c).isSome then .ok s else .error (.shownBy .badEscape (c :: s))

theorem length_of_skipEscape {s rest : List Char} (h : skipEscape s = .ok rest) :
    rest.length < s.length := by
  unfold skipEscape at h
  split at h
  · cases h
  · obtain ⟨a, ha, heq⟩ := exists_of_map_eq_ok h
    cases heq
    have := length_of_readQuad ha
    simp only [List.length_cons]
    omega
  · split at h
    · cases h
      simp
    · cases h

def skipText : List Char → Except Fault (List Char)
  | [] => .error (.atEnd .endInText)
  | '"' :: s => .ok s
  | '\\' :: s =>
    match _he : skipEscape s with
    | .error fault => .error fault
    | .ok rest => skipText rest
  | c :: s => if c < ' ' then .error (.shownBy .controlCharacter (c :: s)) else skipText s
termination_by s => s.length
decreasing_by
  · have := length_of_skipEscape _he
    simp only [List.length_cons]
    omega
  · simp

theorem length_of_skipText {s rest : List Char} (h : skipText s = .ok rest) :
    rest.length < s.length := by
  fun_induction skipText s with
  | case1 => cases h
  | case2 =>
    cases h
    simp
  | case3 => cases h
  | case4 s r he ih =>
    have h1 := length_of_skipEscape he
    have h2 := ih h
    simp only [List.length_cons]
    omega
  | case5 => cases h
  | case6 c s _ _ _ ih =>
    have := ih h
    simp only [List.length_cons]
    omega

/-- Passes over a word, a number or a text, which starts with the first character. -/
def skipScalar : List Char → Except Fault (List Char)
  | [] => .error (.atEnd .endInValue)
  | 'n' :: s => readWord ['u', 'l', 'l'] s
  | 't' :: s => readWord ['r', 'u', 'e'] s
  | 'f' :: s => readWord ['a', 'l', 's', 'e'] s
  | '"' :: s => skipText s
  | c :: s =>
    if c = '-' ∨ c.isDigit then (Numeral.scan .badNumber (c :: s)).map (·.2)
    else .error (.shownBy .noValue (c :: s))

theorem length_of_skipScalar {s rest : List Char} (h : skipScalar s = .ok rest) :
    rest.length < s.length := by
  unfold skipScalar at h
  split at h
  · cases h
  · have := length_of_readWord h
    simp only [List.length_cons]
    omega
  · have := length_of_readWord h
    simp only [List.length_cons]
    omega
  · have := length_of_readWord h
    simp only [List.length_cons]
    omega
  · have := length_of_skipText h
    simp only [List.length_cons]
    omega
  · split at h
    · obtain ⟨a, ha, heq⟩ := exists_of_map_eq_ok h
      cases heq
      exact Numeral.length_of_scan ha
    · cases h

def skipKey (s : List Char) : Except Fault (List Char) :=
  match skipBlanks s with
  | [] => .error (.atEnd .endInObject)
  | c :: r =>
    if c = '"' then
      match skipText r with
      | .error fault => .error fault
      | .ok rest => readColon rest
    else .error (.shownBy .keyNotText (c :: r))

theorem length_of_skipKey {s rest : List Char} (h : skipKey s = .ok rest) :
    rest.length < s.length := by
  unfold skipKey at h
  split at h
  · cases h
  · rename_i c r hs
    have h1 := length_lt_of_skipBlanks hs
    split at h
    · split at h
      · cases h
      · rename_i rest' ht
        have h2 := length_of_skipText ht
        have h3 := length_of_readColon h
        omega
    · cases h

/-- What stands next in a value that is passed over. -/
inductive Ahead where
  /-- A value. -/
  | value
  /-- The first item after an opening bracket, or the closing one. -/
  | opened (b : Enclosure)
  /-- An item after a comma. -/
  | item (b : Enclosure)
  /-- What follows a value. -/
  | rest
  deriving DecidableEq, Repr

/-- How many steps may pass before a character is used up. -/
def Ahead.rank : Ahead → Nat
  | .value => 0
  | .opened _ => 2
  | .item _ => 1
  | .rest => 0

/-- Passes over what stands next and then over the rest of the open brackets. -/
def skip (ahead : Ahead) (opened : List Enclosure) (s : List Char) :
    Except Fault (List Char) :=
  match ahead with
  | .value =>
    match _hs : skipBlanks s with
    | [] => .error (.atEnd .endInValue)
    | c :: r =>
      if c = '[' then skip (.opened .list) opened r
      else if c = '\x7b' then skip (.opened .object) opened r
      else
        match _hr : skipScalar (c :: r) with
        | .error fault => .error fault
        | .ok r' => skip .rest opened r'
  | .opened b =>
    match _hs : skipBlanks s with
    | [] => .error (.atEnd b.unfinished)
    | c :: r =>
      if c = b.closing then skip .rest opened r else skip (.item b) opened (c :: r)
  | .item .list => skip .value (.list :: opened) s
  | .item .object =>
    match _hk : skipKey s with
    | .error fault => .error fault
    | .ok r => skip .value (.object :: opened) r
  | .rest =>
    match opened with
    | [] => .ok s
    | b :: outer =>
      match _hs : skipBlanks s with
      | [] => .error (.atEnd b.unfinished)
      | c :: r =>
        if c = ',' then skip (.item b) outer r
        else if c = b.closing then skip .rest outer r
        else .error (.shownBy b.unseparated (c :: r))
termination_by (s.length, ahead.rank)
decreasing_by
  · exact .left _ _ (length_lt_of_skipBlanks _hs)
  · exact .left _ _ (length_lt_of_skipBlanks _hs)
  · have h1 := length_skipBlanks_le s
    have h2 := length_of_skipScalar _hr
    rw [_hs] at h1
    exact .left _ _ (by omega)
  · exact .left _ _ (length_lt_of_skipBlanks _hs)
  · have h1 := length_skipBlanks_le s
    rw [_hs] at h1
    rcases Nat.lt_or_eq_of_le h1 with h | h
    · exact .left _ _ h
    · rw [h]
      exact .right _ Nat.one_lt_two
  · exact .right _ (by decide)
  · exact .left _ _ (length_of_skipKey _hk)
  · exact .left _ _ (length_lt_of_skipBlanks _hs)
  · exact .left _ _ (length_lt_of_skipBlanks _hs)

/-- What is left is no longer than the text, and shorter unless nothing had to be read. -/
theorem length_of_skip {ahead : Ahead} {opened : List Enclosure} {s rest : List Char}
    (h : skip ahead opened s = .ok rest) :
    rest.length ≤ s.length ∧ (ahead ≠ .rest → rest.length < s.length) := by
  fun_induction skip ahead opened s with
  | case1 | case4 | case6 | case10 | case13 | case16 => cases h
  | case2 opened s r hs ih | case3 opened s r hs _ ih | case7 opened s b r hs ih =>
    have h1 := length_lt_of_skipBlanks hs
    have h2 := (ih h).1
    exact ⟨by omega, fun _ => by omega⟩
  | case5 opened s c r hs _ _ r' hr ih =>
    have h1 := length_skipBlanks_le s
    have h2 := length_of_skipScalar hr
    have h3 := (ih h).1
    rw [hs] at h1
    exact ⟨by omega, fun _ => by omega⟩
  | case8 opened s b c r hs _ ih =>
    have h1 := length_skipBlanks_le s
    have h2 := (ih h).2 (by simp)
    rw [hs] at h1
    exact ⟨by omega, fun _ => by omega⟩
  | case9 opened s ih =>
    have h2 := (ih h).2 (by simp)
    exact ⟨by omega, fun _ => h2⟩
  | case11 opened s r hk ih =>
    have h1 := length_of_skipKey hk
    have h2 := (ih h).1
    exact ⟨by omega, fun _ => by omega⟩
  | case12 s =>
    cases h
    exact ⟨Nat.le_refl _, fun hne => absurd rfl hne⟩
  | case14 s b outer r hs ih | case15 s b outer r hs _ ih =>
    have h1 := length_lt_of_skipBlanks hs
    have h2 := (ih h).1
    exact ⟨by omega, fun hne => absurd rfl hne⟩

def skipReader : Reader Unit where
  run s := (skip .value [] s).map fun rest => ((), rest)
  progress h := by
    obtain ⟨a, ha, heq⟩ := exists_of_map_eq_ok h
    cases heq
    exact (length_of_skip ha).2 (by simp)

end SensorGateway.Json
