import SensorGateway.ObjectId
import SensorGateway.Uuid

/-!
The records on which the gateway decides: sensors, the users who own them and the keys of
the programming interface.
-/

namespace SensorGateway

/-- A sensor and what its owner set up for it. -/
structure SensorRecord where
  id : ObjectId
  owner : Uuid
  secret : String := ""
  name : String := ""
  storageEnabled : Bool := true
  liveDataTargets : List String := []
  deriving DecidableEq, Repr

/-- A user who may own sensors. -/
structure UserRecord where
  id : Uuid
  email : String := ""
  suspended : Bool := false
  deriving DecidableEq, Repr

/-- A key of a user, which may be bound to one sensor. -/
structure ApiKeyRecord where
  key : String
  owner : Uuid
  sensor : Option ObjectId := none
  revoked : Bool := false
  deriving DecidableEq, Repr

end SensorGateway
