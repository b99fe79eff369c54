import SensorGateway.Authorization
import SensorGateway.Repository.Basic
import SensorGateway.Settings

/-!
Reloading records from the repositories. A reload first gathers everything it needs; only if
no repository fails are the records merged into the ones held. So a reload has two halves:
the `gather` functions, which ask, and the `ops` of what was gathered, which are carried out.
-/

namespace SensorGateway

/-- Which repository made a reload fail. -/
inductive ReloadError where
  | sensors (source : RepositoryError)
  | users (source : RepositoryError)
  | keys (source : RepositoryError)
  deriving DecidableEq, Repr

namespace ReloadError

def source : ReloadError → RepositoryError
  | .sensors e | .users e | .keys e => e

def message : ReloadError → String
  | .sensors e => "Sensor repository failed: " ++ e.message
  | .users e => "User repository failed: " ++ e.message
  | .keys e => "API key repository failed: " ++ e.message

end ReloadError

/-- How many records a reload wrote and how many sensors it dropped. -/
structure ReloadSummary where
  sensors : Nat := 0
  users : Nat := 0
  keys : Nat := 0
  flushed : Nat := 0
  deriving DecidableEq, Repr

/-- The records that a reload found. -/
structure Harvest where
  sensors : List SensorRecord
  users : List UserRecord
  keys : List ApiKeyRecord
  deriving DecidableEq, Repr

namespace Harvest

/-- The requested sensors that were not found, as often as they were requested. -/
def missing (h : Harvest) (ids : List ObjectId) : List ObjectId :=
  ids.filter fun id => !(h.sensors.map SensorRecord.id).contains id

def ops (h : Harvest) : List CacheOp :=
  [.appendSensors h.sensors, .appendUsers h.users, .appendKeys h.keys]

/-- What is done after a reload of the requested sensors: the missing ones go first. -/
def opsFor (h : Harvest) (ids : List ObjectId) : List CacheOp :=
  (h.missing ids).map CacheOp.flushSensor ++ h.ops

def summary (h : Harvest) (flushed : Nat) : ReloadSummary where
  sensors := h.sensors.length
  users := h.users.length
  keys := (Authorization.liveKeys h.keys).length
  flushed := flushed

end Harvest

def owners (sensors : List SensorRecord) : List Uuid :=
  (sensors.map SensorRecord.owner).eraseDups

namespace Reload

variable {ρ : Type}

/-- Goes through pages until one is not full. -/
def collect (fetch : Nat → ρ → Answer ρ (List SensorRecord)) (limit : Nat)
    (ahead : Nat → ρ → Nat)
    (shrinks : ∀ {skip r page r'}, fetch skip r = (.ok page, r') → limit ≤ page.length →
      ahead (skip + page.length) r' < ahead skip r)
    (skip : Nat) (r : ρ) : Answer ρ (List SensorRecord) :=
  match _hf : fetch skip r with
  | (.error e, r') => (.error e, r')
  | (.ok page, r') =>
    if _hp : page.length < limit then (.ok page, r')
    else
      match collect fetch limit ahead shrinks (skip + page.length) r' with
      | (.error e, r'') => (.error e, r'')
      | (.ok rest, r'') => (.ok (page ++ rest), r'')
termination_by ahead skip r
decreasing_by exact shrinks _hf (by omega)

variable [Directory ρ]

def withOwners (sensors : List SensorRecord)
    (askKeys : List Uuid → ρ → Answer ρ (List ApiKeyRecord)) (r : ρ) :
    Except ReloadError Harvest × ρ :=
  match Directory.users (owners sensors) r with
  | (.error e, r') => (.error (.users e), r')
  | (.ok users, r') =>
    match askKeys (owners sensors) r' with
    | (.error e, r'') => (.error (.keys e), r'')
    | (.ok keys, r'') => (.ok ⟨sensors, users, keys⟩, r'')

/-- All sensors, their owners and the keys bound to sensors. -/
def gatherAll (limit : Nat) (hlimit : 0 < limit) (r : ρ) : Except ReloadError Harvest × ρ :=
  match collect (fun skip => Directory.allSensors skip limit) limit Directory.ahead
      (Directory.ahead_allSensors hlimit) 0 r with
  | (.error e, r') => (.error (.sensors e), r')
  | (.ok sensors, r') => withOwners sensors (fun _ => Directory.boundKeys) r'

/-- The given sensors, their owners and the keys of these. -/
def gatherSome (ids : List ObjectId) (limit : Nat) (hlimit : 0 < limit) (r : ρ) :
    Except ReloadError Harvest × ρ :=
  match collect (fun skip => Directory.sensorsIn ids skip limit) limit Directory.ahead
      (Directory.ahead_sensorsIn hlimit) 0 r with
  | (.error e, r') => (.error (.sensors e), r')
  | (.ok sensors, r') => withOwners sensors Directory.keysOf r'

/-- A sensor and its owner, if the sensor exists. -/
def gatherOne (id : ObjectId) (r : ρ) :
    Except ReloadError (Option (SensorRecord × List UserRecord)) × ρ :=
  match Directory.sensor id r with
  | (.error e, r') => (.error (.sensors e), r')
  | (.ok none, r') => (.ok none, r')
  | (.ok (some sensor), r') =>
    match Directory.users [sensor.owner] r' with
    | (.error e, r'') => (.error (.users e), r'')
    | (.ok users, r'') => (.ok (some (sensor, users)), r'')

def opsForOne (id : ObjectId) : Option (SensorRecord × List UserRecord) → List CacheOp
  | none => [.flushSensor id]
  | some (sensor, users) => [.appendSensors [sensor], .appendUsers users]

end Reload

end SensorGateway
