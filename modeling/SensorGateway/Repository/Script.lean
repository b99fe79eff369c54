import SensorGateway.Repository.Basic

/-!
Repositories that answer by a script. Each one gives its next answer whatever it is asked,
and an empty list once the script is used up. What was asked is written down.
-/

namespace SensorGateway

/-- A question to a repository. Sets of identifiers are written in order. -/
inductive Call where
  | allSensors (skip limit : Nat)
  | sensorsIn (ids : List ObjectId) (skip limit : Nat)
  | sensor (id : ObjectId)
  | boundKeys
  | keysOf (owners : List Uuid)
  | users (ids : List Uuid)
  deriving DecidableEq, Repr

abbrev Answers (α : Type) := List (Except RepositoryError (List α))

/-- The scripts of the three repositories and the questions asked so far. -/
structure Script where
  sensors : Answers SensorRecord
  keys : Answers ApiKeyRecord
  users : Answers UserRecord
  calls : List Call := []

namespace Script

def next {α : Type} : Answers α → Except RepositoryError (List α)
  | [] => .ok []
  | answer :: _ => answer

def sortDistinct (ids : List Uuid) : List Uuid :=
  ids.eraseDups.mergeSort Uuid.le

def askSensors (call : Call) (s : Script) : Answer Script (List SensorRecord) :=
  (next s.sensors, { s with sensors := s.sensors.drop 1, calls := s.calls ++ [call] })

def askKeys (call : Call) (s : Script) : Answer Script (List ApiKeyRecord) :=
  (next s.keys, { s with keys := s.keys.drop 1, calls := s.calls ++ [call] })

def askUsers (call : Call) (s : Script) : Answer Script (List UserRecord) :=
  (next s.users, { s with users := s.users.drop 1, calls := s.calls ++ [call] })

/-- A page with sensors comes from the script, which is shorter afterwards. -/
theorem length_askSensors {call : Call} {s s' : Script} {page : List SensorRecord}
    (h : askSensors call s = (.ok page, s')) (hpage : 0 < page.length) :
    s'.sensors.length < s.sensors.length := by
  obtain ⟨h1, h2⟩ := Prod.mk.inj h
  subst h2
  cases hs : s.sensors with
  | nil =>
    rw [hs] at h1
    cases h1
    cases hpage
  | cons answer rest => simp

instance : Directory Script where
  allSensors skip limit := askSensors (.allSensors skip limit)
  sensorsIn ids skip limit := askSensors (.sensorsIn ids skip limit)
  sensor id s :=
    let (answer, s') := askSensors (.sensor id) s
    (answer.map List.getLast?, s')
  boundKeys := askKeys .boundKeys
  keysOf owners := askKeys (.keysOf (sortDistinct owners))
  users ids := askUsers (.users (sortDistinct ids))
  ahead _ s := s.sensors.length
  ahead_allSensors hlimit h hfull := length_askSensors h (by omega)
  ahead_sensorsIn hlimit h hfull := length_askSensors h (by omega)

end Script

end SensorGateway
