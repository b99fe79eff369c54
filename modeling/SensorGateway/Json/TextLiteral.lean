import SensorGateway.Json.Reader
import SensorGateway.Text.Hex

/-!
Texts between double quotes. A character stands for itself or is written as an escape; one
beyond the first plane takes a pair of escapes. `writeText` writes the shortest form of a
text and `readText` reads every form.
-/

namespace SensorGateway.Json

/-- Reads four hexadecimal digits. The four bytes are taken together. -/
def readQuad (s : List Char) : Except Fault (Nat × List Char) :=
  let bad : Except Fault (Nat × List Char) :=
    if byteLength s < 4 then .error (.atEnd .endInText)
    else .error ⟨.grammar .badEscape, byteLength s - 4⟩
  match s with
  | a :: b :: c :: d :: rest =>
    match Text.Hex.digit? a, Text.Hex.digit? b, Text.Hex.digit? c, Text.Hex.digit? d with
    | some a, some b, some c, some d => .ok (((a * 16 + b) * 16 + c) * 16 + d, rest)
    | _, _, _, _ => bad
  | _ => bad

/-- Whether a unit is the first half of a pair. -/
def isLeading (n : Nat) : Bool := 0xd800 ≤ n && n < 0xdc00

/-- Whether a unit is the second half of a pair. -/
def isTrailing (n : Nat) : Bool := 0xdc00 ≤ n && n < 0xe000

def ofPair (leading trailing : Nat) : Char :=
  Char.ofNat (0x10000 + (leading - 0xd800) * 0x400 + (trailing - 0xdc00))

def readTrailing (leading : Nat) : List Char → Except Fault (Char × List Char)
  | [] => .error (.atEnd .endInText)
  | ['\\'] => .error (.atEnd .endInText)
  | '\\' :: 'u' :: s =>
    match readQuad s with
    | .error fault => .error fault
    | .ok (n, rest) =>
      if isTrailing n then .ok (ofPair leading n, rest)
      else .error (.before .loneSurrogate rest)
  | '\\' :: s => .error (.shownBy .unfinishedSurrogate s)
  | s => .error (.shownBy .unfinishedSurrogate s)

def readUnits (s : List Char) : Except Fault (Char × List Char) :=
  match readQuad s with
  | .error fault => .error fault
  | .ok (n, rest) =>
    if isTrailing n then .error (.before .loneSurrogate rest)
    else if isLeading n then readTrailing n rest
    else .ok (Char.ofNat n, rest)

def ofLetter? : Char → Option Char
  | '"' => some '"'
  | '\\' => some '\\'
  | '/' => some '/'
  | 'b' => some '\x08'
  | 'f' => some '\x0c'
  | 'n' => some '\n'
  | 'r' => some '\r'
  | 't' => some '\t'
  | _ => none

def readEscape : List Char → Except Fault (Char × List Char)
  | [] => .error (.atEnd .endInText)
  | 'u' :: s => readUnits s
  | c :: s =>
    match ofLetter? c with
    | some d => .ok (d, s)
    | none => .error (.shownBy .badEscape (c :: s))

theorem length_of_readQuad {s rest : List Char} {n : Nat} (h : readQuad s = .ok (n, rest)) :
    rest.length < s.length := by
  unfold readQuad at h
  dsimp only at h
  split at h
  · split at h
    · cases h
      simp only [List.length_cons]
      omega
    · split at h <;> cases h
  · split at h <;> cases h

theorem length_of_readTrailing {leading : Nat} {s rest : List Char} {c : Char}
    (h : readTrailing leading s = .ok (c, rest)) : rest.length < s.length := by
  unfold readTrailing at h
  split at h
  · cases h
  · cases h
  · split at h
    · cases h
    · rename_i n rest' hq
      split at h
      · simp only [Except.ok.injEq, Prod.mk.injEq] at h
        obtain ⟨-, rfl⟩ := h
        have := length_of_readQuad hq
        simp only [List.length_cons]
        omega
      · cases h
  · cases h
  · cases h

theorem length_of_readUnits {s rest : List Char} {c : Char}
    (h : readUnits s = .ok (c, rest)) : rest.length < s.length := by
  unfold readUnits at h
  split at h
  · cases h
  · rename_i n rest' hq
    have := length_of_readQuad hq
    split at h
    · cases h
    · split at h
      · have := length_of_readTrailing h
        omega
      · cases h
        assumption

theorem length_of_readEscape {s rest : List Char} {c : Char}
    (h : readEscape s = .ok (c, rest)) : rest.length < s.length := by
  unfold readEscape at h
  split at h
  · cases h
  · have := length_of_readUnits h
    simp only [List.length_cons]
    omega
  · split at h
    · cases h
      simp
    · cases h

def readText : List Char → Except Fault (List Char × List Char)
  | [] => .error (.atEnd .endInText)
  | '"' :: s => .ok ([], s)
  | '\\' :: s =>
    match _he : readEscape s with
    | .error fault => .error fault
    | .ok (c, rest) =>
      match readText rest with
      | .error fault => .error fault
      | .ok (cs, rest') => .ok (c :: cs, rest')
  | c :: s =>
    if c < ' ' then .error (.shownBy .controlCharacter (c :: s))
    else
      match readText s with
      | .error fault => .error fault
      | .ok (cs, rest) => .ok (c :: cs, rest)
termination_by s => s.length
decreasing_by
  · have := length_of_readEscape _he
    simp only [List.length_cons]
    omega
  · simp

theorem length_of_readText {s cs rest : List Char} (h : readText s = .ok (cs, rest)) :
    rest.length < s.length := by
  fun_induction readText s generalizing cs rest with
  | case1 => cases h
  | case2 =>
    cases h
    simp
  | case3 => cases h
  | case4 => cases h
  | case5 s c r he cs' rest' hr ih =>
    cases h
    have h1 := length_of_readEscape he
    have h2 := ih hr
    simp only [List.length_cons]
    omega
  | case6 => cases h
  | case7 => cases h
  | case8 c s _ _ _ cs' rest' hr ih =>
    cases h
    have := ih hr
    simp only [List.length_cons]
    omega

/-- The two-character escapes of the written form. -/
def letter? : Char → Option Char
  | '"' => some '"'
  | '\\' => some '\\'
  | '\x08' => some 'b'
  | '\x0c' => some 'f'
  | '\n' => some 'n'
  | '\r' => some 'r'
  | '\t' => some 't'
  | _ => none

def writeChar (c : Char) : List Char :=
  match letter? c with
  | some l => ['\\', l]
  | none =>
    if c < ' ' then
      ['\\', 'u', '0', '0', Text.Hex.digit (c.toNat / 16), Text.Hex.digit (c.toNat % 16)]
    else [c]

def writeText (cs : List Char) : List Char :=
  '"' :: cs.flatMap writeChar ++ ['"']

end SensorGateway.Json
