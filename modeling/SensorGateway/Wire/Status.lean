import SensorGateway.Authorization
import SensorGateway.Wire.Codec

/-!
The form of decisions in documents. A decision is written as its name; it is also read from
an object with `null` under its name.
-/

namespace SensorGateway

def SensorStatus.name : SensorStatus → String
  | .available => "Available"
  | .unavailable => "Unavailable"
  | .unknown => "Unknown"

def SensorStatus.all : List SensorStatus :=
  [.available, .unavailable, .unknown]

namespace Wire

open Json

/-- Reads the name of a decision behind its opening quote. -/
def readStatusName (s : List Char) : Except Fault (SensorStatus × List Char) :=
  match readText s with
  | .error fault => .error fault
  | .ok (cs, rest) =>
    match SensorStatus.all.find? fun status => status.name.toList = cs with
    | some status => .ok (status, rest)
    | none =>
      .error (.mismatch (.unknownVariant cs (SensorStatus.all.map SensorStatus.name)) rest)

def readStatusKey (s : List Char) : Except Fault (SensorStatus × List Char) :=
  match skipBlanks s with
  | [] => .error (.atEnd .endInObject)
  | '"' :: r => readStatusName r
  | '\x7d' :: r => .error (.shownBy .noValue ('\x7d' :: r))
  | r => .error (.shownBy .keyNotText r)

def readUnit (s : List Char) : Except Fault (List Char) :=
  match skipBlanks s with
  | [] => .error (.atEnd .endInValue)
  | 'n' :: r => readWord ['u', 'l', 'l'] r
  | r => wrongType .unit r

/-- Reads the end of an object that may have no second member. -/
def readSoleEnd (s : List Char) : Except Fault (List Char) :=
  match skipBlanks s with
  | [] => .error (.atEnd .endInObject)
  | c :: r => if c = '\x7d' then .ok r else .error (.before .noValue (c :: r))

def readStatus (s : List Char) : Except Fault (SensorStatus × List Char) :=
  match skipBlanks s with
  | [] => .error (.atEnd .endInValue)
  | c :: r =>
    if c = '"' then readStatusName r
    else if c = '\x7b' then
      match readStatusKey r with
      | .error fault => .error fault
      | .ok (status, s1) =>
        match (readColon s1).bind fun s2 => (readUnit s2).bind readSoleEnd with
        | .error fault => .error fault
        | .ok rest => .ok (status, rest)
    else .error (.shownBy .noValue (c :: r))

theorem length_of_readStatusName {s rest : List Char} {status : SensorStatus}
    (h : readStatusName s = .ok (status, rest)) : rest.length < s.length := by
  unfold readStatusName at h
  split at h
  · cases h
  · rename_i cs rest' hq
    split at h
    · cases h
      exact length_of_readText hq
    · cases h

theorem length_of_readStatusKey {s rest : List Char} {status : SensorStatus}
    (h : readStatusKey s = .ok (status, rest)) : rest.length < s.length := by
  unfold readStatusKey at h
  split at h
  · cases h
  · rename_i r hs
    have h1 := length_lt_of_skipBlanks hs
    have h2 := length_of_readStatusName h
    omega
  · cases h
  · cases h

theorem length_of_readUnit {s rest : List Char} (h : readUnit s = .ok rest) :
    rest.length < s.length := by
  unfold readUnit at h
  split at h
  · cases h
  · rename_i r hs
    have h1 := length_lt_of_skipBlanks hs
    have h2 := length_of_readWord h
    omega
  · exact absurd h wrongType_ne_ok

theorem length_of_readSoleEnd {s rest : List Char} (h : readSoleEnd s = .ok rest) :
    rest.length < s.length := by
  unfold readSoleEnd at h
  split at h
  · cases h
  · rename_i c r hs
    split at h
    · cases h
      exact length_lt_of_skipBlanks hs
    · cases h

theorem length_of_readStatus {s rest : List Char} {status : SensorStatus}
    (h : readStatus s = .ok (status, rest)) : rest.length < s.length := by
  have hle := length_skipBlanks_le s
  unfold readStatus at h
  split at h
  · cases h
  · rename_i c r hs
    rw [hs] at hle
    split at h
    · have := length_of_readStatusName h
      simp only [List.length_cons] at hle
      omega
    · split at h
      · split at h
        · cases h
        · rename_i status' s1 hn
          split at h
          · cases h
          · rename_i rest' hb
            cases h
            have h1 := length_of_readStatusKey hn
            cases hc : readColon s1 with
            | error e => rw [hc] at hb; cases hb
            | ok s2 =>
              rw [hc] at hb
              cases hu : readUnit s2 with
              | error e => simp [Except.bind, hu] at hb
              | ok s3 =>
                simp only [Except.bind, hu] at hb
                have h2 := length_of_readColon hc
                have h3 := length_of_readUnit hu
                have h4 := length_of_readSoleEnd hb
                simp only [List.length_cons] at hle
                omega
      · cases h

def status : Codec SensorStatus where
  reader := ⟨readStatus, length_of_readStatus⟩
  write decision := writeText decision.name.toList

end Wire

end SensorGateway
