import SensorGateway.Admission
import SensorGateway.Buffer
import SensorGateway.Reload
import SensorGateway.Schedule

/-!
The gateway: records held for a limited time, repositories from which they are reloaded, and
a buffer for the measurements that are admitted. All of it reads one clock, each operation
in a fixed order, and keeps one set of metrics.
-/

namespace SensorGateway

/-- A gateway over repositories. -/
structure Gateway (ρ : Type) extends Outlet where
  cache : Authorization
  settings : ReloadSettings
  schedule : Schedule
  repositories : ρ
  buffer : Buffer

namespace Gateway

variable {ρ : Type}

/-- A gateway without records at its start, for which the clock is read once. -/
def start (o : Outlet) (config : AuthorizationConfig) (settings : ReloadSettings)
    (ingestion : IngestionConfig) (repositories : ρ) : Gateway ρ where
  toOutlet := { o with clock := o.clock.afterReading }
  cache := { timeout := config.timeout }
  settings := settings
  schedule := .start settings o.clock.now
  repositories := repositories
  buffer := { capacity := ingestion.capacity }

def readClock (g : Gateway ρ) : Nat × Gateway ρ :=
  (g.clock.now, { g with clock := g.clock.afterReading })

def setGauge (g : Gateway ρ) : Gateway ρ :=
  { g with metrics := { g.metrics with cachedSensors := g.cache.sensors.size } }

/-- Counts records that were dropped for their age. Only if there are any, the gauge is
set. -/
def noteEvicted (g : Gateway ρ) (removed : Nat) : Gateway ρ :=
  if removed = 0 then g
  else { g.setGauge with
    metrics := { g.setGauge.metrics with evicted := g.metrics.evicted + removed } }

/-- Brings the metrics up to date after an operation and what it reported. Dropping single
sensors leaves the gauge as it is. -/
def note (g : Gateway ρ) (report : Nat) : CacheOp → Gateway ρ
  | .appendSensors _ | .clear => g.setGauge
  | .cleanup | .cleanupFor _ => g.noteEvicted report
  | _ => g

/-- Carries out an operation on the records held. The clock is read only if the operation
asks for the time. -/
def perform (g : Gateway ρ) (op : CacheOp) : Nat × Gateway ρ :=
  let now := g.clock.now
  let report := g.cache.report now op
  let g' := { g with
    clock := if op.readsClock then g.clock.afterReading else g.clock
    cache := g.cache.apply now op }
  (report, g'.note report op)

def performAll (g : Gateway ρ) (ops : List CacheOp) : Gateway ρ :=
  ops.foldl (fun g op => (g.perform op).2) g

def statusNow (g : Gateway ρ) (id : ObjectId) : SensorStatus × Gateway ρ :=
  let (now, g') := g.readClock
  (g'.cache.statusAt id now, g')

/-- Drops the records that are no longer served and schedules the next time. -/
def sweep (g : Gateway ρ) : Nat × Gateway ρ :=
  let (removed, g') := g.perform .cleanup
  let (now, g'') := g'.readClock
  (removed, { g'' with schedule := g''.schedule.swept g''.settings now })

/-- Schedules the next full reload and counts the one that was carried out. -/
def finishReload (g : Gateway ρ) : Gateway ρ :=
  let (now, g') := g.readClock
  { g' with
    schedule := g'.schedule.reloaded g'.settings now
    metrics := { g'.metrics with reloads := g'.metrics.reloads + 1 } }

section Reloading

variable [Directory ρ]

/-- Reloads everything and schedules the next time. Nothing changes if a repository
fails. -/
def reloadAll (g : Gateway ρ) : Except ReloadError ReloadSummary × Gateway ρ :=
  match Reload.gatherAll g.settings.effectivePageSize g.settings.effectivePageSize_pos
      g.repositories with
  | (.error e, r) => (.error e, { g with repositories := r })
  | (.ok harvest, r) =>
    (.ok (harvest.summary 0),
      ({ g with repositories := r }.performAll harvest.ops).finishReload)

/-- Reloads the given sensors and drops those that no longer exist. For no sensors nothing
is done. -/
def reloadSensors (g : Gateway ρ) (ids : List ObjectId) :
    Except ReloadError ReloadSummary × Gateway ρ :=
  if ids = [] then (.ok {}, g)
  else
    match Reload.gatherSome ids g.settings.effectivePageSize g.settings.effectivePageSize_pos
        g.repositories with
    | (.error e, r) => (.error e, { g with repositories := r })
    | (.ok harvest, r) =>
      (.ok (harvest.summary (harvest.missing ids).length),
        { g with repositories := r }.performAll (harvest.opsFor ids))

/-- Reloads a sensor and tells whether it still exists. -/
def reloadSensor (g : Gateway ρ) (id : ObjectId) : Except ReloadError Bool × Gateway ρ :=
  match Reload.gatherOne id g.repositories with
  | (.error e, r) => (.error e, { g with repositories := r })
  | (.ok found, r) =>
    (.ok found.isSome, { g with repositories := r }.performAll (Reload.opsForOne id found))

end Reloading

section Admitting

/-- Decides about a measurement as of an instant and puts its payload into the buffer if
its sensor is available. A full buffer hands the payload back, and with it the
measurement. -/
def admitOne (g : Gateway ρ) (tp : Nat) (m : Measurement) : Admission × Gateway ρ :=
  match g.cache.statusAt m.sensorId tp with
  | .unavailable =>
    (.rejected, { g with metrics := { g.metrics with rejected := g.metrics.rejected + 1 } })
  | .unknown =>
    (.deferred m, { g with metrics := { g.metrics with deferred := g.metrics.deferred + 1 } })
  | .available =>
    match g.buffer.push m.payload g.metrics with
    | (.ok (), buffer, metrics) =>
      (.admitted, { g with
        buffer := buffer
        metrics := { metrics with admitted := metrics.admitted + 1 } })
    | (.error refusal, buffer, metrics) =>
      (.overflow { m with payload := refusal.payloads.getLast?.getD "" },
        { g with buffer := buffer, metrics := metrics })

def admitAll (g : Gateway ρ) (tp : Nat) : List Measurement → List Admission × Gateway ρ
  | [] => ([], g)
  | m :: ms =>
    let (outcome, g') := g.admitOne tp m
    let (outcomes, g'') := g'.admitAll tp ms
    (outcome :: outcomes, g'')

def submit (g : Gateway ρ) (m : Measurement) : Admission × Gateway ρ :=
  let (now, g') := g.readClock
  g'.admitOne now m

/-- Submits a document. One that names no sensor is rejected without a look at the
clock. -/
def submitDocument (g : Gateway ρ) (payload : String) : Admission × Gateway ρ :=
  match Measurement.ofDocument payload with
  | .ok m => g.submit m
  | .error _ =>
    (.rejected, { g with metrics := { g.metrics with rejected := g.metrics.rejected + 1 } })

/-- Submits several measurements, all of them as of one instant. -/
def submitBatch (g : Gateway ρ) (ms : List Measurement) : BatchOutcome × Gateway ρ :=
  let (now, g') := g.readClock
  let (outcomes, g'') := g'.admitAll now ms
  (.ofAdmissions outcomes, g'')

end Admitting

/-- Does something with the buffer. To flush the gateway is to process its buffer. -/
def onBuffer (g : Gateway ρ) (action : Buffer.Action) : Buffer.Reply × Gateway ρ :=
  let (reply, buffer, o) := g.buffer.step g.toOutlet action
  (reply, { g with toOutlet := o, buffer := buffer })

def onOutlet (g : Gateway ρ) (action : Outlet.Action) : Outlet.Reply × Gateway ρ :=
  let (reply, o) := g.toOutlet.step action
  (reply, { g with toOutlet := o })

end Gateway

end SensorGateway
