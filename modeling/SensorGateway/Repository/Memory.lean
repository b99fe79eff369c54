import SensorGateway.Repository.Basic
import SensorGateway.Table

/-!
Repositories held in memory. Sensors are kept in the order in which they were first stored.
An outage can be simulated for each repository; while it lasts, every question is refused.
-/

namespace SensorGateway

/-- The stored sensors, whether there is an outage, and how many pages were served. -/
structure SensorStore where
  table : Table ObjectId SensorRecord := .empty
  failing : Bool := false
  pageRequests : Nat := 0

structure KeyStore where
  table : Table String ApiKeyRecord := .empty
  failing : Bool := false

structure UserStore where
  table : Table Uuid UserRecord := .empty
  failing : Bool := false

def duringOutage {α : Type} (failing : Bool) (answer : α) : Except RepositoryError α :=
  if failing then .error (.unavailable "simulated outage") else .ok answer

namespace SensorStore

/-- Stores a sensor, in the place of the one with its identifier. -/
def upsert (s : SensorStore) (sensor : SensorRecord) : SensorStore :=
  { s with table := s.table.insert sensor.id sensor }

def delete (s : SensorStore) (id : ObjectId) : SensorStore :=
  { s with table := s.table.erase id }

def stored (s : SensorStore) : List SensorRecord :=
  s.table.values

/-- The stored sensors with the given identifiers, in their order. -/
def among (s : SensorStore) (ids : List ObjectId) : List SensorRecord :=
  s.stored.filter fun sensor => ids.contains sensor.id

/-- One page of a list of sensors; only a page that is served is counted. -/
def page (s : SensorStore) (sensors : List SensorRecord) (skip limit : Nat) :
    Answer SensorStore (List SensorRecord) :=
  (duringOutage s.failing ((sensors.drop skip).take limit),
    if s.failing then s else { s with pageRequests := s.pageRequests + 1 })

def find (s : SensorStore) (id : ObjectId) : Except RepositoryError (Option SensorRecord) :=
  duringOutage s.failing (s.table.get? id)

theorem length_among_le (s : SensorStore) (ids : List ObjectId) :
    (s.among ids).length ≤ s.table.size := by
  have h := List.length_filter_le (fun sensor : SensorRecord => ids.contains sensor.id) s.stored
  simp only [stored, Table.values, List.length_map] at h
  exact h

theorem table_of_page {s s' : SensorStore} {sensors : List SensorRecord} {skip limit : Nat}
    {answer : Except RepositoryError (List SensorRecord)}
    (h : s.page sensors skip limit = (answer, s')) : s'.table = s.table := by
  unfold page at h
  cases hf : s.failing <;> simp [hf] at h <;> rw [← h.2]

/-- After a full page, fewer stored sensors lie ahead. -/
theorem ahead_page {s s' : SensorStore} {sensors page : List SensorRecord} {skip limit : Nat}
    (hlen : sensors.length ≤ s.table.size) (hlimit : 0 < limit)
    (h : s.page sensors skip limit = (.ok page, s')) (hfull : limit ≤ page.length) :
    s'.table.size - (skip + page.length) < s.table.size - skip := by
  rw [table_of_page h]
  unfold SensorStore.page duringOutage at h
  cases hf : s.failing <;> simp [hf] at h
  have hpage : page.length = min limit (sensors.length - skip) := by
    rw [← h.1, List.length_take, List.length_drop]
  omega

end SensorStore

namespace KeyStore

def insert (s : KeyStore) (key : ApiKeyRecord) : KeyStore :=
  { s with table := s.table.insert key.key key }

def revoke (s : KeyStore) (key : String) : KeyStore :=
  match s.table.get? key with
  | none => s
  | some record => { s with table := s.table.insert key { record with revoked := true } }

/-- Whether a key is stored, revoked or not. -/
def holds (s : KeyStore) (key : String) : Bool :=
  s.table.contains key

/-- The keys that are not revoked and satisfy a condition. -/
def select (s : KeyStore) (keep : ApiKeyRecord → Bool) :
    Except RepositoryError (List ApiKeyRecord) :=
  duringOutage s.failing (s.table.values.filter fun k => !k.revoked && keep k)

def named (s : KeyStore) (keys : List String) : Except RepositoryError (List ApiKeyRecord) :=
  s.select fun k => keys.contains k.key

end KeyStore

namespace UserStore

def insert (s : UserStore) (user : UserRecord) : UserStore :=
  { s with table := s.table.insert user.id user }

def among (s : UserStore) (ids : List Uuid) : Except RepositoryError (List UserRecord) :=
  duringOutage s.failing (s.table.values.filter fun u => ids.contains u.id)

end UserStore

structure Memory where
  sensors : SensorStore := {}
  keys : KeyStore := {}
  users : UserStore := {}

namespace Memory

inductive Part where
  | sensors
  | keys
  | users
  deriving DecidableEq, Repr

inductive Change where
  | putSensor (sensor : SensorRecord)
  | deleteSensor (id : ObjectId)
  | putKey (key : ApiKeyRecord)
  | revokeKey (key : String)
  | putUser (user : UserRecord)
  | setFailing (part : Part) (failing : Bool)
  deriving DecidableEq, Repr

def apply (m : Memory) : Change → Memory
  | .putSensor sensor => { m with sensors := m.sensors.upsert sensor }
  | .deleteSensor id => { m with sensors := m.sensors.delete id }
  | .putKey key => { m with keys := m.keys.insert key }
  | .revokeKey key => { m with keys := m.keys.revoke key }
  | .putUser user => { m with users := m.users.insert user }
  | .setFailing .sensors failing => { m with sensors := { m.sensors with failing := failing } }
  | .setFailing .keys failing => { m with keys := { m.keys with failing := failing } }
  | .setFailing .users failing => { m with users := { m.users with failing := failing } }

instance : Directory Memory where
  allSensors skip limit m :=
    let (answer, sensors) := m.sensors.page m.sensors.stored skip limit
    (answer, { m with sensors := sensors })
  sensorsIn ids skip limit m :=
    let (answer, sensors) := m.sensors.page (m.sensors.among ids) skip limit
    (answer, { m with sensors := sensors })
  sensor id m := (m.sensors.find id, m)
  boundKeys m := (m.keys.select fun k => k.sensor.isSome, m)
  keysOf owners m := (m.keys.select fun k => owners.contains k.owner, m)
  users ids m := (m.users.among ids, m)
  ahead skip m := m.sensors.table.size - skip
  ahead_allSensors {skip limit m page m'} hlimit h hfull := by
    obtain ⟨h1, h2⟩ := Prod.mk.inj h
    subst h2
    refine SensorStore.ahead_page ?_ hlimit (Prod.ext h1 rfl) hfull
    simp [SensorStore.stored, Table.values, Table.size]
  ahead_sensorsIn {ids skip limit m page m'} hlimit h hfull := by
    obtain ⟨h1, h2⟩ := Prod.mk.inj h
    subst h2
    exact SensorStore.ahead_page (m.sensors.length_among_le ids) hlimit (Prod.ext h1 rfl) hfull

end Memory

end SensorGateway
