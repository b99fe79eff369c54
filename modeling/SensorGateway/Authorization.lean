import SensorGateway.Record
import SensorGateway.TimedMap

/-!
The records on which decisions rest, held in memory for a limited time, and the sensors
that are barred. A decision looks at the barred sensors first and then for a fresh record
of the sensor; who owns it and with which keys plays no part.
-/

namespace SensorGateway

inductive SensorStatus where
  | available
  | unavailable
  | unknown
  deriving DecidableEq, Repr

structure CacheStats where
  sensors : Nat := 0
  users : Nat := 0
  keys : Nat := 0
  blacklisted : Nat := 0
  deriving DecidableEq, Repr

/-- The records held, the barred sensors and the time for which a record is served. -/
structure Authorization where
  timeout : Span
  sensors : TimedMap ObjectId SensorRecord := .empty
  users : TimedMap Uuid UserRecord := .empty
  keys : TimedMap String ApiKeyRecord := .empty
  blacklist : Table ObjectId Unit := .empty

inductive CacheOp where
  | appendSensors (sensors : List SensorRecord)
  | appendUsers (users : List UserRecord)
  | appendKeys (keys : List ApiKeyRecord)
  | blacklist (id : ObjectId)
  | blacklistMany (ids : List ObjectId)
  | unblacklist (id : ObjectId)
  | clearBlacklist
  | flushSensor (id : ObjectId)
  | flushUser (id : Uuid)
  | flushKey (key : String)
  /-- Drops the records that are no longer served. -/
  | cleanup
  /-- Drops the records older than a bound. -/
  | cleanupFor (maxAge : Span)
  | clear
  deriving DecidableEq, Repr

namespace CacheOp

def readsClock : CacheOp → Bool
  | .appendSensors _ | .appendUsers _ | .appendKeys _ | .cleanup | .cleanupFor _ => true
  | _ => false

end CacheOp

namespace Authorization

def appendSensors (a : Authorization) (now : Nat) (sensors : List SensorRecord) :
    Authorization :=
  { a with sensors := a.sensors.upsertMany now (sensors.map fun s => (s.id, s)) }

def appendUsers (a : Authorization) (now : Nat) (users : List UserRecord) : Authorization :=
  { a with users := a.users.upsertMany now (users.map fun u => (u.id, u)) }

/-- The keys that are not revoked. -/
def liveKeys (keys : List ApiKeyRecord) : List ApiKeyRecord :=
  keys.filter fun k => !k.revoked

/-- Writes the keys that are not revoked at an instant. -/
def appendKeys (a : Authorization) (now : Nat) (keys : List ApiKeyRecord) : Authorization :=
  { a with keys := a.keys.upsertMany now ((liveKeys keys).map fun k => (k.key, k)) }

def bar (a : Authorization) (ids : List ObjectId) : Authorization :=
  { a with blacklist := a.blacklist.insertAll (ids.map fun id => (id, ())) }

def evict (a : Authorization) (maxAge : Span) (now : Nat) : Authorization :=
  { a with
    sensors := a.sensors.evict maxAge now
    users := a.users.evict maxAge now
    keys := a.keys.evict maxAge now }

def recordCount (a : Authorization) : Nat :=
  a.sensors.size + a.users.size + a.keys.size

def apply (a : Authorization) (now : Nat) : CacheOp → Authorization
  | .appendSensors sensors => a.appendSensors now sensors
  | .appendUsers users => a.appendUsers now users
  | .appendKeys keys => a.appendKeys now keys
  | .blacklist id => a.bar [id]
  | .blacklistMany ids => a.bar ids
  | .unblacklist id => { a with blacklist := a.blacklist.erase id }
  | .clearBlacklist => { a with blacklist := .empty }
  | .flushSensor id => { a with sensors := a.sensors.remove id }
  | .flushUser id => { a with users := a.users.remove id }
  | .flushKey key => { a with keys := a.keys.remove key }
  | .cleanup => a.evict a.timeout now
  | .cleanupFor maxAge => a.evict maxAge now
  | .clear => { a with sensors := .empty, users := .empty, keys := .empty }

/-- The number an operation reports: of records written, of records or sensors removed, or
of sensors newly barred. -/
def report (a : Authorization) (now : Nat) (op : CacheOp) : Nat :=
  match op with
  | .appendSensors sensors => sensors.length
  | .appendUsers users => users.length
  | .appendKeys keys => (liveKeys keys).length
  | .blacklist _ | .blacklistMany _ => (a.apply now op).blacklist.size - a.blacklist.size
  | .unblacklist _ | .clearBlacklist => a.blacklist.size - (a.apply now op).blacklist.size
  | _ => a.recordCount - (a.apply now op).recordCount

def run (a : Authorization) (history : List (Nat × CacheOp)) : Authorization :=
  history.foldl (fun a entry => a.apply entry.1 entry.2) a

def isBlacklisted (a : Authorization) (id : ObjectId) : Bool :=
  a.blacklist.contains id

def getSensor (a : Authorization) (id : ObjectId) (tp : Nat) : Option SensorRecord :=
  a.sensors.lookup a.timeout id tp

def getUser (a : Authorization) (id : Uuid) (tp : Nat) : Option UserRecord :=
  a.users.lookup a.timeout id tp

def getKey (a : Authorization) (key : String) (tp : Nat) : Option ApiKeyRecord :=
  a.keys.lookup a.timeout key tp

def statusAt (a : Authorization) (id : ObjectId) (tp : Nat) : SensorStatus :=
  if a.isBlacklisted id then .unavailable
  else if a.sensors.contains a.timeout id tp then .available
  else .unknown

def stats (a : Authorization) : CacheStats where
  sensors := a.sensors.size
  users := a.users.size
  keys := a.keys.size
  blacklisted := a.blacklist.size

end Authorization

end SensorGateway
