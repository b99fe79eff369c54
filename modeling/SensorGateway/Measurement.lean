import SensorGateway.Json.Document
import SensorGateway.ObjectId

/-!
Measurements as sensors send them: a document that names its sensor. The document itself is
passed on as it came.
-/

namespace SensorGateway

/-- Why the sensor of a measurement cannot be told. -/
inductive IdentityError where
  | invalidObjectId (value reason : String)
  | missingSensorId
  | malformedPayload (reason : String)
  deriving DecidableEq, Repr

def IdentityError.message : IdentityError → String
  | .invalidObjectId value reason =>
    "Invalid object id " ++ Text.quoted value ++ ": " ++ reason
  | .missingSensorId => "Measurement has no sensor id"
  | .malformedPayload reason => "Malformed measurement payload: " ++ reason

/-- Reads an identifier and cites the text if it is none. -/
def ObjectId.identify (text : String) : Except IdentityError ObjectId :=
  (ObjectId.parse text).mapError fun refusal => .invalidObjectId text refusal.reason

structure Measurement where
  sensorId : ObjectId
  payload : String
  deriving DecidableEq, Repr

namespace Measurement

/-- The key under which a document names its sensor. -/
def sensorIdKey : List Char := "CreatedById".toList

def ofDocument (payload : String) : Except IdentityError Measurement :=
  match Json.parse payload.toList with
  | .error fault => .error (.malformedPayload (fault.describe payload.toList))
  | .ok value =>
    match (value.member? sensorIdKey).bind Json.Value.text? with
    | none => .error .missingSensorId
    | some cs =>
      match ObjectId.identify (String.ofList cs) with
      | .error err => .error err
      | .ok id => .ok ⟨id, payload⟩

end Measurement

end SensorGateway
