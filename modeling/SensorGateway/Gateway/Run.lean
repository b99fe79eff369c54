import SensorGateway.Gateway.Basic

/-!
The gateway as a machine that is driven one action at a time. Every way to change its state
or to read its clock is an action; looking up records is none, as it does neither.
-/

namespace SensorGateway

namespace Gateway

inductive Action (ρ : Type) where
  | cache (op : CacheOp)
  | statusNow (id : ObjectId)
  | reloadAll
  | reloadSensors (ids : List ObjectId)
  | reloadSensor (id : ObjectId)
  | sweep
  | submit (m : Measurement)
  | submitDocument (payload : String)
  | submitBatch (ms : List Measurement)
  | buffer (action : Buffer.Action)
  | outlet (action : Outlet.Action)
  /-- The repositories are changed from outside. -/
  | repositories (change : ρ → ρ)

inductive Reply where
  | done
  | count (n : Nat)
  | status (s : SensorStatus)
  | reloaded (answer : Except ReloadError ReloadSummary)
  | reloadedOne (answer : Except ReloadError Bool)
  | admission (a : Admission)
  | outcome (o : BatchOutcome)
  | buffer (reply : Buffer.Reply)
  | outlet (reply : Outlet.Reply)

variable {ρ : Type} [Directory ρ]

def step (g : Gateway ρ) : Action ρ → Reply × Gateway ρ
  | .cache op => (g.perform op).map .count id
  | .statusNow sensor => (g.statusNow sensor).map .status id
  | .reloadAll => g.reloadAll.map .reloaded id
  | .reloadSensors ids => (g.reloadSensors ids).map .reloaded id
  | .reloadSensor sensor => (g.reloadSensor sensor).map .reloadedOne id
  | .sweep => g.sweep.map .count id
  | .submit m => (g.submit m).map .admission id
  | .submitDocument payload => (g.submitDocument payload).map .admission id
  | .submitBatch ms => (g.submitBatch ms).map .outcome id
  | .buffer action => (g.onBuffer action).map .buffer id
  | .outlet action => (g.onOutlet action).map .outlet id
  | .repositories change => (.done, { g with repositories := change g.repositories })

def run (g : Gateway ρ) (actions : List (Action ρ)) : Gateway ρ :=
  actions.foldl (fun g action => (g.step action).2) g

end Gateway

end SensorGateway
