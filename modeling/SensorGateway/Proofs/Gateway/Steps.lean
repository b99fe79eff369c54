import SensorGateway.Gateway.Run
import SensorGateway.Proofs.Runs

/-!
What the operations of a gateway can do, said once. Cache operations touch the clock, the
cache and the metrics; reloads touch the repositories and the schedule besides; submitting a
measurement ends in one of four ways.
-/

namespace SensorGateway

namespace CacheOp

/-- The clock after an operation. It is read only if the operation asks for the time. -/
def clockAfter (clock : Clock) (op : CacheOp) : Clock :=
  if op.readsClock then clock.afterReading else clock

/-- Operations together with what the clock shows when they are carried out. -/
def timed : Clock → List CacheOp → List (Nat × CacheOp)
  | _, [] => []
  | clock, op :: ops => (clock.now, op) :: timed (op.clockAfter clock) ops

/-- The operations of which reloads are made up. None of them touches the barred sensors. -/
def IsReload : CacheOp → Prop
  | .appendSensors _ | .appendUsers _ | .appendKeys _ | .flushSensor _ => True
  | _ => False

end CacheOp

theorem Authorization.run_append (a : Authorization) (before after : List (Nat × CacheOp)) :
    a.run (before ++ after) = (a.run before).run after :=
  List.foldl_append

theorem Harvest.isReload_ops (h : Harvest) : ∀ op ∈ h.ops, op.IsReload := by
  simp [ops, CacheOp.IsReload]

theorem Harvest.isReload_opsFor (h : Harvest) (ids : List ObjectId) :
    ∀ op ∈ h.opsFor ids, op.IsReload := by
  intro op hop
  rcases List.mem_append.1 hop with hop | hop
  · obtain ⟨id, -, rfl⟩ := List.mem_map.1 hop
    trivial
  · exact h.isReload_ops op hop

theorem Reload.isReload_opsForOne (id : ObjectId)
    (found : Option (SensorRecord × List UserRecord)) :
    ∀ op ∈ opsForOne id found, op.IsReload := by
  cases found <;> simp [opsForOne, CacheOp.IsReload]

namespace Gateway

variable {ρ : Type}

/-! ### Cache operations -/

theorem noteEvicted_eq (g : Gateway ρ) (removed : Nat) :
    ∃ metrics, g.noteEvicted removed = { g with metrics := metrics } := by
  unfold noteEvicted
  split
  · exact ⟨g.metrics, rfl⟩
  · exact ⟨_, rfl⟩

/-- A cache operation changes the cache, reads the clock if it asks for the time, and leaves
all but the metrics as it was. -/
theorem perform_snd (g : Gateway ρ) (op : CacheOp) :
    ∃ metrics, (g.perform op).2 = { g with
      clock := op.clockAfter g.clock
      cache := g.cache.apply g.clock.now op
      metrics := metrics } := by
  cases op with
  | appendSensors sensors => exact ⟨_, rfl⟩
  | clear => exact ⟨_, rfl⟩
  | cleanup =>
      obtain ⟨metrics, h⟩ := noteEvicted_eq _ _
      exact ⟨metrics, h⟩
  | cleanupFor maxAge =>
      obtain ⟨metrics, h⟩ := noteEvicted_eq _ _
      exact ⟨metrics, h⟩
  | _ => exact ⟨g.metrics, rfl⟩

theorem buffer_perform (g : Gateway ρ) (op : CacheOp) :
    (g.perform op).2.buffer = g.buffer := by
  obtain ⟨metrics, h⟩ := perform_snd g op
  rw [h]

theorem cache_perform (g : Gateway ρ) (op : CacheOp) :
    (g.perform op).2.cache = g.cache.apply g.clock.now op := by
  obtain ⟨metrics, h⟩ := perform_snd g op
  rw [h]

theorem performAll_cons (g : Gateway ρ) (op : CacheOp) (ops : List CacheOp) :
    g.performAll (op :: ops) = (g.perform op).2.performAll ops :=
  rfl

theorem performAll_append (g : Gateway ρ) (ops ops' : List CacheOp) :
    g.performAll (ops ++ ops') = (g.performAll ops).performAll ops' :=
  List.foldl_append

/-- Several cache operations are a history of the cache; all but the clock, the cache and the
metrics stays as it was. -/
theorem performAll_eq (g : Gateway ρ) (ops : List CacheOp) :
    ∃ metrics, g.performAll ops = { g with
      clock := ops.foldl CacheOp.clockAfter g.clock
      cache := g.cache.run (CacheOp.timed g.clock ops)
      metrics := metrics } := by
  induction ops generalizing g with
  | nil => exact ⟨g.metrics, rfl⟩
  | cons op ops ih =>
      obtain ⟨metrics, h⟩ := perform_snd g op
      rw [performAll_cons, h]
      exact ih _

/-- Cache operations do not look at the settings and the repositories. -/
theorem perform_setSource (g : Gateway ρ) (settings : ReloadSettings) (r : ρ) (op : CacheOp) :
    (perform { g with settings := settings, repositories := r } op).2 =
      { (g.perform op).2 with settings := settings, repositories := r } := by
  cases op with
  | cleanup | cleanupFor =>
      simp only [perform, note, noteEvicted]
      split <;> rfl
  | _ => rfl

theorem performAll_setSource (g : Gateway ρ) (settings : ReloadSettings) (r : ρ)
    (ops : List CacheOp) :
    performAll { g with settings := settings, repositories := r } ops =
      { g.performAll ops with settings := settings, repositories := r } := by
  induction ops generalizing g with
  | nil => rfl
  | cons op ops ih => rw [performAll_cons, performAll_cons, perform_setSource, ih]

/-! ### Measurements -/

/-- The four ways in which the submission of a measurement ends. -/
theorem admitOne_cases (g : Gateway ρ) (tp : Nat) (m : Measurement) :
    (g.cache.statusAt m.sensorId tp = .unavailable ∧ g.admitOne tp m =
        (.rejected, { g with metrics := { g.metrics with rejected := g.metrics.rejected + 1 } })) ∨
      (g.cache.statusAt m.sensorId tp = .unknown ∧ g.admitOne tp m =
        (.deferred m, { g with
          metrics := { g.metrics with deferred := g.metrics.deferred + 1 } })) ∨
      (g.cache.statusAt m.sensorId tp = .available ∧ g.buffer.size < g.buffer.capacity ∧
        g.admitOne tp m = (.admitted, { g with
          buffer := { g.buffer with pending := g.buffer.pending.push m.payload }
          metrics := { g.metrics with
            pending := g.metrics.pending + 1
            admitted := g.metrics.admitted + 1 } })) ∨
      (g.cache.statusAt m.sensorId tp = .available ∧ g.buffer.capacity ≤ g.buffer.size ∧
        g.admitOne tp m = (.overflow m, { g with
          metrics := { g.metrics with overflows := g.metrics.overflows + 1 } })) := by
  unfold admitOne
  cases g.cache.statusAt m.sensorId tp with
  | unavailable => exact .inl ⟨rfl, rfl⟩
  | unknown => exact .inr (.inl ⟨rfl, rfl⟩)
  | available =>
      rcases Nat.lt_or_ge g.buffer.size g.buffer.capacity with h | h
      · refine .inr (.inr (.inl ⟨rfl, h, ?_⟩))
        simp only [Buffer.push, if_pos h]
      · refine .inr (.inr (.inr ⟨rfl, h, ?_⟩))
        simp only [Buffer.push, if_neg (Nat.not_lt.2 h)]
        rfl

/-- Submitting a measurement changes the buffer and the metrics only. -/
theorem admitOne_snd (g : Gateway ρ) (tp : Nat) (m : Measurement) :
    ∃ buffer metrics, (g.admitOne tp m).2 =
      { g with buffer := buffer, metrics := metrics } := by
  rcases admitOne_cases g tp m with ⟨-, h⟩ | ⟨-, h⟩ | ⟨-, -, h⟩ | ⟨-, -, h⟩
  all_goals exact ⟨_, _, congrArg Prod.snd h⟩

theorem admitAll_snd (g : Gateway ρ) (tp : Nat) (ms : List Measurement) :
    ∃ buffer metrics, (g.admitAll tp ms).2 =
      { g with buffer := buffer, metrics := metrics } := by
  induction ms generalizing g with
  | nil => exact ⟨g.buffer, g.metrics, rfl⟩
  | cons m ms ih =>
      obtain ⟨buffer, metrics, hfirst⟩ := admitOne_snd g tp m
      obtain ⟨buffer', metrics', hrest⟩ := ih (g.admitOne tp m).2
      refine ⟨buffer', metrics', hrest.trans ?_⟩
      rw [hfirst]

/-! ### Reloads -/

/-- What a reload can do: it asks the repositories, carries out cache operations and sets the
schedule. -/
def Reloaded (g g' : Gateway ρ) : Prop :=
  ∃ repositories ops clock schedule metrics, (∀ op ∈ ops, op.IsReload) ∧ g' = { g with
    repositories := repositories
    clock := clock
    cache := g.cache.run (CacheOp.timed g.clock ops)
    schedule := schedule
    metrics := metrics }

theorem Reloaded.buffer {g g' : Gateway ρ} (h : Reloaded g g') : g'.buffer = g.buffer := by
  obtain ⟨repositories, ops, clock, schedule, metrics, -, rfl⟩ := h
  rfl

theorem Reloaded.publisher {g g' : Gateway ρ} (h : Reloaded g g') :
    g'.publisher = g.publisher := by
  obtain ⟨repositories, ops, clock, schedule, metrics, -, rfl⟩ := h
  rfl

/-- A reload that fails, or has nothing to do, only asks. -/
theorem reloaded_of_asking (g : Gateway ρ) (r : ρ) :
    Reloaded g { g with repositories := r } :=
  ⟨r, [], g.clock, g.schedule, g.metrics, by simp, rfl⟩

theorem reloaded_performAll (g : Gateway ρ) (r : ρ) {ops : List CacheOp}
    (hops : ∀ op ∈ ops, op.IsReload) :
    Reloaded g (performAll { g with repositories := r } ops) := by
  obtain ⟨metrics, h⟩ := performAll_eq { g with repositories := r } ops
  exact ⟨r, ops, _, g.schedule, metrics, hops, h⟩

section Reloading

variable [Directory ρ]

def gatheredAll (settings : ReloadSettings) (r : ρ) : Except ReloadError Harvest × ρ :=
  Reload.gatherAll settings.effectivePageSize settings.effectivePageSize_pos r

def gatheredSome (settings : ReloadSettings) (ids : List ObjectId) (r : ρ) :
    Except ReloadError Harvest × ρ :=
  Reload.gatherSome ids settings.effectivePageSize settings.effectivePageSize_pos r

/-- The operations on the records held that an action carries out. Those of a reload depend on
what the repositories answer; if it fails there are none. -/
def carried (g : Gateway ρ) : Action ρ → List CacheOp
  | .cache op => [op]
  | .sweep => [.cleanup]
  | .reloadAll =>
    match (gatheredAll g.settings g.repositories).1 with
    | .ok harvest => harvest.ops
    | .error _ => []
  | .reloadSensors ids =>
    if ids = [] then []
    else
      match (gatheredSome g.settings ids g.repositories).1 with
      | .ok harvest => harvest.opsFor ids
      | .error _ => []
  | .reloadSensor id =>
    match (Reload.gatherOne id g.repositories).1 with
    | .ok found => Reload.opsForOne id found
    | .error _ => []
  | _ => []

/-- A full reload fails and has only asked, or it carries out cache operations. Then it reads
the clock for the schedule and is counted. -/
theorem reloadAll_cases (g : Gateway ρ) :
    (∃ e r, g.carried .reloadAll = [] ∧
        g.reloadAll = (.error e, { g with repositories := r })) ∨
      ∃ (harvest : Harvest) (r : ρ), g.carried .reloadAll = harvest.ops ∧
        g.reloadAll = (.ok (harvest.summary 0),
          (performAll { g with repositories := r } harvest.ops).finishReload) := by
  simp only [reloadAll, carried, gatheredAll]
  rcases Reload.gatherAll g.settings.effectivePageSize g.settings.effectivePageSize_pos
    g.repositories with ⟨e | harvest, r⟩
  · exact .inl ⟨e, r, rfl, rfl⟩
  · exact .inr ⟨harvest, r, rfl, rfl⟩

/-- A reload of some sensors fails and has only asked, or it carries out cache operations and
no more. -/
theorem reloadSensors_cases (g : Gateway ρ) {ids : List ObjectId} (hids : ids ≠ []) :
    (∃ e r, g.carried (.reloadSensors ids) = [] ∧
        g.reloadSensors ids = (.error e, { g with repositories := r })) ∨
      ∃ (harvest : Harvest) (r : ρ), g.carried (.reloadSensors ids) = harvest.opsFor ids ∧
        g.reloadSensors ids = (.ok (harvest.summary (harvest.missing ids).length),
          performAll { g with repositories := r } (harvest.opsFor ids)) := by
  simp only [reloadSensors, carried, gatheredSome, if_neg hids]
  rcases Reload.gatherSome ids g.settings.effectivePageSize
    g.settings.effectivePageSize_pos g.repositories with ⟨e | harvest, r⟩
  · exact .inl ⟨e, r, rfl, rfl⟩
  · exact .inr ⟨harvest, r, rfl, rfl⟩

/-- For no sensors nothing is done. -/
theorem reloadSensors_nil (g : Gateway ρ) :
    g.carried (.reloadSensors []) = [] ∧ g.reloadSensors [] = (.ok {}, g) :=
  ⟨rfl, rfl⟩

theorem reloadSensor_cases (g : Gateway ρ) (id : ObjectId) :
    (∃ e r, g.carried (.reloadSensor id) = [] ∧
        g.reloadSensor id = (.error e, { g with repositories := r })) ∨
      ∃ (found : Option (SensorRecord × List UserRecord)) (r : ρ),
        g.carried (.reloadSensor id) = Reload.opsForOne id found ∧
        g.reloadSensor id = (.ok found.isSome,
          performAll { g with repositories := r } (Reload.opsForOne id found)) := by
  simp only [reloadSensor, carried]
  rcases Reload.gatherOne id g.repositories with ⟨e | found, r⟩
  · exact .inl ⟨e, r, rfl, rfl⟩
  · exact .inr ⟨found, r, rfl, rfl⟩

/-- Reloads of single sensors carry out cache operations and no more. If they fail, or have
nothing to do, there are none. -/
theorem exists_reloadSensors (g : Gateway ρ) (ids : List ObjectId) :
    ∃ r ops, (∀ op ∈ ops, op.IsReload) ∧
      (g.reloadSensors ids).2 = performAll { g with repositories := r } ops := by
  by_cases hids : ids = []
  · subst hids
    exact ⟨g.repositories, [], List.forall_mem_nil _, congrArg Prod.snd g.reloadSensors_nil.2⟩
  · rcases reloadSensors_cases g hids with ⟨e, r, -, h⟩ | ⟨harvest, r, -, h⟩
    · exact ⟨r, [], List.forall_mem_nil _, congrArg Prod.snd h⟩
    · exact ⟨r, harvest.opsFor ids, harvest.isReload_opsFor ids, congrArg Prod.snd h⟩

theorem exists_reloadSensor (g : Gateway ρ) (id : ObjectId) :
    ∃ r ops, (∀ op ∈ ops, op.IsReload) ∧
      (g.reloadSensor id).2 = performAll { g with repositories := r } ops := by
  rcases reloadSensor_cases g id with ⟨e, r, -, h⟩ | ⟨found, r, -, h⟩
  · exact ⟨r, [], List.forall_mem_nil _, congrArg Prod.snd h⟩
  · exact ⟨r, Reload.opsForOne id found, Reload.isReload_opsForOne id found,
      congrArg Prod.snd h⟩

theorem reloaded_reloadAll (g : Gateway ρ) : Reloaded g g.reloadAll.2 := by
  rcases reloadAll_cases g with ⟨e, r, -, h⟩ | ⟨harvest, r, -, h⟩
  · rw [h]
    exact reloaded_of_asking g r
  · obtain ⟨r', ops, clock, schedule, metrics, hops, hmerged⟩ :=
      reloaded_performAll g r harvest.isReload_ops
    rw [h, hmerged]
    exact ⟨r', ops, _, _, _, hops, rfl⟩

theorem reloaded_reloadSensors (g : Gateway ρ) (ids : List ObjectId) :
    Reloaded g (g.reloadSensors ids).2 := by
  obtain ⟨r, ops, hops, h⟩ := exists_reloadSensors g ids
  rw [h]
  exact reloaded_performAll g r hops

theorem reloaded_reloadSensor (g : Gateway ρ) (id : ObjectId) :
    Reloaded g (g.reloadSensor id).2 := by
  obtain ⟨r, ops, hops, h⟩ := exists_reloadSensor g id
  rw [h]
  exact reloaded_performAll g r hops

end Reloading

/-- A sweep is a cleanup, after which the clock is read once more to set the schedule. -/
theorem sweep_snd (g : Gateway ρ) :
    ∃ metrics, g.sweep.2 = { g with
      clock := g.clock.afterReading.afterReading
      cache := g.cache.apply g.clock.now .cleanup
      schedule := g.schedule.swept g.settings g.clock.afterReading.now
      metrics := metrics } := by
  obtain ⟨metrics, h⟩ := perform_snd g .cleanup
  simp only [sweep, h, readClock]
  exact ⟨metrics, rfl⟩

theorem buffer_sweep (g : Gateway ρ) : g.sweep.2.buffer = g.buffer :=
  buffer_perform g .cleanup

theorem cache_sweep (g : Gateway ρ) :
    g.sweep.2.cache = g.cache.apply g.clock.now .cleanup :=
  cache_perform g .cleanup

section Runs

variable [Directory ρ] {β : Type} {note : Gateway ρ → Action ρ → List β}

theorem run_append (g : Gateway ρ) (actions actions' : List (Action ρ)) :
    g.run (actions ++ actions') = (g.run actions).run actions' :=
  List.foldl_append

/-- What is noted of each action along a run. -/
def along (note : Gateway ρ → Action ρ → List β) (g : Gateway ρ) (actions : List (Action ρ)) :
    List β :=
  noteAlong (fun g action => (g.step action).2) note g actions

@[simp] theorem along_nil (g : Gateway ρ) : g.along note [] = [] :=
  rfl

@[simp] theorem along_cons (g : Gateway ρ) (action : Action ρ) (actions : List (Action ρ)) :
    g.along note (action :: actions) = note g action ++ (g.step action).2.along note actions :=
  rfl

theorem along_append (g : Gateway ρ) (actions actions' : List (Action ρ)) :
    g.along note (actions ++ actions') =
      g.along note actions ++ (g.run actions).along note actions' :=
  noteAlong_append ..

theorem exists_of_mem_along {g : Gateway ρ} {actions : List (Action ρ)} {b : β}
    (h : b ∈ g.along note actions) :
    ∃ before action after, actions = before ++ action :: after ∧
      b ∈ note (g.run before) action :=
  exists_of_mem_noteAlong h

end Runs

end Gateway

end SensorGateway
