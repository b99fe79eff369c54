import SensorGateway.Record

/-!
Where records come from. `Directory` is what a reload asks of repositories of sensors,
users and keys. Sensors come in pages; the directory bounds how many full pages lie ahead,
so that going through all of them ends.
-/

namespace SensorGateway

inductive RepositoryError where
  | unavailable (reason : String)
  | query (reason : String)
  deriving DecidableEq, Repr

def RepositoryError.message : RepositoryError → String
  | .unavailable reason => "Repository unavailable: " ++ reason
  | .query reason => "Repository query failed: " ++ reason

/-- Answers of a repository, which may change by being asked. -/
abbrev Answer (ρ α : Type) := Except RepositoryError α × ρ

/-- Repositories of sensors, users and keys. Lists of identifiers are taken as sets. -/
class Directory (ρ : Type) where
  /-- At most `limit` sensors after the first `skip`. -/
  allSensors (skip limit : Nat) : ρ → Answer ρ (List SensorRecord)
  /-- The same of the sensors with the given identifiers. -/
  sensorsIn (ids : List ObjectId) (skip limit : Nat) : ρ → Answer ρ (List SensorRecord)
  sensor (id : ObjectId) : ρ → Answer ρ (Option SensorRecord)
  /-- The keys bound to a sensor. -/
  boundKeys : ρ → Answer ρ (List ApiKeyRecord)
  keysOf (owners : List Uuid) : ρ → Answer ρ (List ApiKeyRecord)
  users (ids : List Uuid) : ρ → Answer ρ (List UserRecord)
  /-- A bound on the number of full pages that come after so many sensors. -/
  ahead (skip : Nat) : ρ → Nat
  ahead_allSensors : ∀ {skip limit r page r'}, 0 < limit →
    allSensors skip limit r = (.ok page, r') →
    limit ≤ page.length → ahead (skip + page.length) r' < ahead skip r
  ahead_sensorsIn : ∀ {ids skip limit r page r'}, 0 < limit →
    sensorsIn ids skip limit r = (.ok page, r') →
    limit ≤ page.length → ahead (skip + page.length) r' < ahead skip r

def ApiKeyRecord.sort (keys : List ApiKeyRecord) : List ApiKeyRecord :=
  keys.mergeSort fun a b => decide (a.key ≤ b.key)

def UserRecord.sort (users : List UserRecord) : List UserRecord :=
  users.mergeSort fun a b => a.id.le b.id

end SensorGateway
