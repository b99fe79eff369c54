import SensorGateway.Proofs.Gateway.Barred
import SensorGateway.Proofs.Gateway.History
import SensorGateway.Proofs.Reload.Failure
import SensorGateway.Proofs.Reload.Refresh
import SensorGateway.Proofs.TimedMap.Sweep

/-!
Sensors stay available from one full reload to the next. A full reload writes every stored
sensor. As long as the clock does not go back and nobody drops the record on purpose, later
reloads can only write it again and sweeps spare it, until it is older than the time for
which records are served.
-/

namespace SensorGateway

namespace Memory

/-- A sensor is stored under its own identifier, as all sensors are that were put there. -/
def Stores (m : Memory) (id : ObjectId) : Prop :=
  ∃ record, m.sensors.table.get? id = some record ∧ record.id = id

theorem Stores.exists_mem {m : Memory} {id : ObjectId} (h : m.Stores id) :
    ∃ record ∈ m.sensors.stored, record.id = id := by
  obtain ⟨record, hget, hid⟩ := h
  exact ⟨record, Table.mem_values_iff.2 ⟨id, hget⟩, hid⟩

/-- A stored sensor is not missing from what is found when it is asked for. -/
theorem Stores.not_mem_missing {m : Memory} {id : ObjectId} (h : m.Stores id)
    (ids : List ObjectId) : id ∉ (m.harvestOf ids).missing ids := by
  intro hmissing
  obtain ⟨hid, hnot⟩ := List.mem_filter.1 hmissing
  obtain ⟨record, hrecord, rfl⟩ := h.exists_mem
  have hfound : record ∈ m.sensors.among ids :=
    List.mem_filter.2 ⟨hrecord, by simpa using hid⟩
  have hcontains : ((m.sensors.among ids).map SensorRecord.id).contains record.id = true :=
    List.contains_iff_mem.2 (List.mem_map_of_mem hfound)
  rw [harvestOf, hcontains] at hnot
  cases hnot

end Memory

namespace Gateway

/-! ### What reloads do to sensors -/

/-- What a reload can do to the sensors held: it drops some that are not stored and writes
what it found, all at the present instant. -/
def RewritesSensors (g g' : Gateway Memory) : Prop :=
  ∃ (missing : List ObjectId) (found : List SensorRecord),
    (∀ id ∈ missing, ¬g.repositories.Stores id) ∧
      g'.cache.sensors = (g.cache.sensors.removeAll missing).upsertMany g.clock.now
        (found.map fun s => (s.id, s))

theorem rewritesSensors_of_cache_eq {g g' : Gateway Memory} (h : g'.cache = g.cache) :
    RewritesSensors g g' :=
  ⟨[], [], by simp, by rw [h]; rfl⟩

theorem working_of_reloadAll_eq_ok {g : Gateway Memory} {summary : ReloadSummary}
    (h : g.reloadAll.1 = .ok summary) (part : Memory.Part) :
    g.repositories.isFailing part = false := by
  by_contra hfail
  have hmem : part ∈ [Memory.Part.sensors, .users, .keys] := by cases part <;> simp
  obtain ⟨e, he⟩ :=
    g.failsInTurn_reloadAll.fails.2 ⟨part, hmem, Bool.eq_true_of_not_eq_false hfail⟩
  cases h.symm.trans he

/-- A full reload that succeeds writes all stored sensors. -/
theorem sensors_reloadAll {g : Gateway Memory} {summary : ReloadSummary}
    (h : g.reloadAll.1 = .ok summary) :
    g.reloadAll.2.cache.sensors = g.cache.sensors.upsertMany g.clock.now
      (g.repositories.sensors.stored.map fun s => (s.id, s)) := by
  obtain ⟨served, metrics, heq⟩ := reloadAll_of_working (working_of_reloadAll_eq_ok h)
  rw [heq]
  rfl

theorem rewritesSensors_reloadAll (g : Gateway Memory) :
    RewritesSensors g g.reloadAll.2 := by
  cases h : g.reloadAll.1 with
  | error e =>
      obtain ⟨served, heq⟩ := g.failsInTurn_reloadAll.unchanged e h
      exact rewritesSensors_of_cache_eq (by rw [heq])
  | ok summary => exact ⟨[], g.repositories.sensors.stored, by simp, sensors_reloadAll h⟩

theorem rewritesSensors_reloadSensors (g : Gateway Memory) (ids : List ObjectId) :
    RewritesSensors g (g.reloadSensors ids).2 := by
  by_cases hids : ids = []
  · rw [reloadSensors, if_pos hids]
    exact rewritesSensors_of_cache_eq rfl
  · rw [reloadSensors, if_neg hids, Reload.gatherSome_eq]
    cases h : g.repositories.consult [.sensors, .users, .keys] (g.repositories.harvestOf ids) with
    | error e => exact rewritesSensors_of_cache_eq rfl
    | ok harvest =>
        obtain ⟨-, rfl⟩ := Memory.consult_eq_ok_iff.1 h
        refine ⟨(g.repositories.harvestOf ids).missing ids, g.repositories.sensors.among ids,
          fun id hid hstored => hstored.not_mem_missing ids hid, ?_⟩
        obtain ⟨metrics, heq⟩ := performAll_opsFor
          { g with repositories := g.repositories.servePages (g.repositories.pagesServed
            (g.repositories.sensors.among ids).length g.settings.effectivePageSize) }
          (g.repositories.harvestOf ids) ids
        simp only [heq]
        rfl

theorem rewritesSensors_reloadSensor (g : Gateway Memory) (id : ObjectId) :
    RewritesSensors g (g.reloadSensor id).2 := by
  rw [reloadSensor, Reload.gatherOne_eq]
  split
  · exact rewritesSensors_of_cache_eq rfl
  · rename_i found r h
    obtain ⟨-, hfound⟩ := Memory.consult_eq_ok_iff.1 (congrArg Prod.fst h)
    rw [← hfound]
    cases hget : g.repositories.sensors.table.get? id with
    | none =>
        refine ⟨[id], [], ?_, rfl⟩
        rintro _ hid ⟨record, hrecord, -⟩
        obtain rfl := List.mem_singleton.1 hid
        cases hget.symm.trans hrecord
    | some record => exact ⟨[], [record], by simp, rfl⟩

/-- A reload writes the record of a stored sensor or keeps it. -/
theorem RewritesSensors.exists_apply {g g' : Gateway Memory} (h : RewritesSensors g g')
    {id : ObjectId} (hstored : g.repositories.Stores id) :
    ∃ found : Option SensorRecord, g'.cache.sensors.get? id =
      (EntryOp.writeIf found).apply g.clock.now (g.cache.sensors.get? id) := by
  obtain ⟨missing, found, hmissing, hsensors⟩ := h
  refine ⟨lastUnder SensorRecord.id id found, ?_⟩
  rw [hsensors, TimedMap.get?_upsertMany_map, TimedMap.get?_removeAll,
    if_neg fun hid => hmissing id hid hstored]

/-! ### What actions do to the record of a sensor -/

/-- Whether an action leaves the record of a sensor there as long as it is served, if the
sensor is stored. -/
def Action.SparesSensor {ρ : Type} (timeout : Span) (id : ObjectId) : Action ρ → Prop
  | .cache (.flushSensor i) => i ≠ id
  | .cache .clear => False
  | .cache (.cleanupFor maxAge) => timeout.millis ≤ maxAge.millis
  | _ => True

theorem sparesFresh_onEntry_sensors {timeout : Span} {id : ObjectId} {op : CacheOp}
    (h : (Action.cache op : Action Memory).SparesSensor timeout id) :
    (RecordKind.sensors.onEntry timeout id op).SparesFresh timeout := by
  simp only [RecordKind.onEntry, RecordKind.sensors]
  cases op with
  | appendSensors sensors =>
      simp only [CacheOp.onSensors, RecordOp.onEntry]
      cases lastUnder SensorRecord.id id sensors <;> trivial
  | flushSensor i =>
      rw [CacheOp.onSensors, RecordOp.onEntry, if_neg (Ne.symm h)]
      trivial
  | cleanup => exact Nat.le_refl _
  | cleanupFor maxAge => exact h
  | clear => exact h.elim
  | _ => trivial

theorem sparesFresh_writeIf (timeout : Span) (found : Option SensorRecord) :
    (EntryOp.writeIf found).SparesFresh timeout := by
  cases found <;> trivial

/-- What an action that spares a stored sensor does to its record. -/
theorem sensors_step {g : Gateway Memory} {id : ObjectId} {action : Action Memory}
    (hstored : g.repositories.Stores id) (hspared : action.SparesSensor g.cache.timeout id) :
    ∃ op : EntryOp SensorRecord, op.SparesFresh g.cache.timeout ∧
      (g.step action).2.cache.sensors.get? id =
        op.apply g.clock.now (g.cache.sensors.get? id) := by
  -- a reload writes the record of a stored sensor or does not touch it
  have hrewritten : ∀ g', RewritesSensors g g' →
      ∃ op : EntryOp SensorRecord, op.SparesFresh g.cache.timeout ∧
        g'.cache.sensors.get? id = op.apply g.clock.now (g.cache.sensors.get? id) := by
    intro g' h
    obtain ⟨found, hfound⟩ := h.exists_apply hstored
    exact ⟨.writeIf found, sparesFresh_writeIf _ found, hfound⟩
  have hkept : ∀ g' : Gateway Memory, g'.cache = g.cache →
      ∃ op : EntryOp SensorRecord, op.SparesFresh g.cache.timeout ∧
        g'.cache.sensors.get? id = op.apply g.clock.now (g.cache.sensors.get? id) := by
    intro g' h
    exact ⟨.keep, trivial, by rw [h]; rfl⟩
  cases action with
  | cache op =>
      refine ⟨RecordKind.sensors.onEntry g.cache.timeout id op,
        sparesFresh_onEntry_sensors hspared, ?_⟩
      exact (congrArg (·.sensors.get? id) (cache_perform g op)).trans
        (RecordKind.sensors.get?_apply ..)
  | sweep =>
      refine ⟨.sweep g.cache.timeout, Nat.le_refl _, ?_⟩
      exact (congrArg (·.sensors.get? id) (cache_sweep g)).trans (TimedMap.get?_evict ..)
  | reloadAll => exact hrewritten _ (rewritesSensors_reloadAll g)
  | reloadSensors ids => exact hrewritten _ (rewritesSensors_reloadSensors g ids)
  | reloadSensor sensor => exact hrewritten _ (rewritesSensors_reloadSensor g sensor)
  | submit m => exact hkept _ (cache_submit g m)
  | submitDocument payload => exact hkept _ (cache_submitDocument g payload)
  | submitBatch ms => exact hkept _ (cache_submitBatch g ms)
  | _ => exact hkept _ rfl

section Runs

variable {ρ : Type} [Directory ρ]

theorem timeout_step (g : Gateway ρ) (action : Action ρ) :
    (g.step action).2.cache.timeout = g.cache.timeout := by
  rw [cache_step, Authorization.timeout_run]

theorem timeout_run (g : Gateway ρ) (actions : List (Action ρ)) :
    (g.run actions).cache.timeout = g.cache.timeout := by
  rw [cache_run, Authorization.timeout_run]

/-- The instants that the clock shows along a run, before and after each action. -/
def instants (g : Gateway ρ) : List (Action ρ) → List Nat
  | [] => [g.clock.now]
  | action :: actions => g.clock.now :: (g.step action).2.instants actions

theorem isChain_instants_cons {g : Gateway ρ} {action : Action ρ} {actions : List (Action ρ)} :
    (g.instants (action :: actions)).IsChain (· ≤ ·) ↔
      g.clock.now ≤ (g.step action).2.clock.now ∧
        ((g.step action).2.instants actions).IsChain (· ≤ ·) := by
  cases actions <;> simp [instants, List.isChain_cons_cons]

/-- If the clock does not go back along a run, then it does not along its parts. -/
theorem isChain_instants_append {g : Gateway ρ} {actions actions' : List (Action ρ)}
    (h : (g.instants (actions ++ actions')).IsChain (· ≤ ·)) :
    (g.instants actions).IsChain (· ≤ ·) ∧
      ((g.run actions).instants actions').IsChain (· ≤ ·) := by
  induction actions generalizing g with
  | nil => exact ⟨by simp [instants], h⟩
  | cons action actions ih =>
      obtain ⟨hle, hrest⟩ := isChain_instants_cons.1 h
      obtain ⟨hfirst, hsecond⟩ := ih hrest
      exact ⟨isChain_instants_cons.2 ⟨hle, hfirst⟩, hsecond⟩

theorem now_le_run {g : Gateway ρ} {actions : List (Action ρ)}
    (h : (g.instants actions).IsChain (· ≤ ·)) :
    g.clock.now ≤ (g.run actions).clock.now := by
  induction actions generalizing g with
  | nil => exact Nat.le_refl _
  | cons action actions ih =>
      obtain ⟨hle, hrest⟩ := isChain_instants_cons.1 h
      exact hle.trans (ih hrest)

/-- The instants at which the full reloads that succeed write the sensors. -/
def fullReloads (g : Gateway ρ) (action : Action ρ) : List Nat :=
  match action, (g.step action).1 with
  | .reloadAll, .reloaded (.ok _) => [g.clock.now]
  | _, _ => []

theorem eq_reloadAll_of_mem_fullReloads {g : Gateway ρ} {action : Action ρ} {t : Nat}
    (h : t ∈ g.fullReloads action) :
    action = .reloadAll ∧ t = g.clock.now ∧ ∃ summary, g.reloadAll.1 = .ok summary := by
  unfold fullReloads at h
  split at h
  · rename_i summary hreply
    simp only [step, Prod.map_fst, Reply.reloaded.injEq] at hreply
    exact ⟨rfl, List.mem_singleton.1 h, summary, hreply⟩
  · cases h

end Runs

/-- Along a run that spares a stored sensor, its record is there as long as it is served. -/
theorem writtenSince_run {g : Gateway Memory} {id : ObjectId} {t : Nat}
    {actions : List (Action Memory)} (h : WrittenSince t (g.cache.sensors.get? id))
    (hle : t ≤ g.clock.now) (hclock : (g.instants actions).IsChain (· ≤ ·))
    (hstored : ∀ before, before <+: actions → (g.run before).repositories.Stores id)
    (hspared : ∀ action ∈ actions, action.SparesSensor g.cache.timeout id)
    (hnow : (g.run actions).clock.now ≤ t + g.cache.timeout.millis) :
    WrittenSince t ((g.run actions).cache.sensors.get? id) := by
  induction actions generalizing g with
  | nil => exact h
  | cons action actions ih =>
      obtain ⟨hstep, hrest⟩ := isChain_instants_cons.1 hclock
      have hstoredNow : g.repositories.Stores id := hstored [] List.nil_prefix
      obtain ⟨op, hop, hentry⟩ := sensors_step hstoredNow (hspared action List.mem_cons_self)
      -- the clock is never past the end of the run, so the record is still served now
      have hserved : g.clock.now ≤ t + g.cache.timeout.millis :=
        hstep.trans ((now_le_run hrest).trans hnow)
      have htimeout := timeout_step g action
      refine ih (g := (g.step action).2) ?_ (hle.trans hstep) hrest ?_ ?_ ?_
      · rw [hentry]
        exact h.apply hop hle hserved
      · intro before hbefore
        exact hstored (action :: before) (List.cons_prefix_cons.2 ⟨rfl, hbefore⟩)
      · intro later hlater
        rw [htimeout]
        exact hspared later (List.mem_cons_of_mem _ hlater)
      · rw [htimeout]
        exact hnow

/-- A full reload that succeeds writes the record of a stored sensor. -/
theorem writtenSince_reloadAll {g : Gateway Memory} {id : ObjectId} {summary : ReloadSummary}
    (h : g.reloadAll.1 = .ok summary) (hstored : g.repositories.Stores id) :
    WrittenSince g.clock.now (g.reloadAll.2.cache.sensors.get? id) := by
  obtain ⟨record, hrecord, hid⟩ := hstored.exists_mem
  obtain ⟨last, hlast⟩ := exists_lastUnder_of_mem hrecord hid
  rw [sensors_reloadAll h, TimedMap.get?_upsertMany_map, hlast]
  exact ⟨⟨last, g.clock.now⟩, rfl, Nat.le_refl _⟩

theorem stores_of_reloadAll {g : Gateway Memory} {id : ObjectId} {summary : ReloadSummary}
    (h : g.reloadAll.1 = .ok summary) (hstored : g.reloadAll.2.repositories.Stores id) :
    g.repositories.Stores id := by
  obtain ⟨served, metrics, heq⟩ := reloadAll_of_working (working_of_reloadAll_eq_ok h)
  rwa [heq] at hstored

/-- A run that gives no cause for a sensor to become unavailable. The clock does not go back;
the sensor is stored from the first full reload on that succeeds, it is never barred, and its
record is not dropped on purpose. -/
structure Undisturbed (g : Gateway Memory) (id : ObjectId) (actions : List (Action Memory)) :
    Prop where
  clock : (g.instants actions).IsChain (· ≤ ·)
  stored : ∀ before, before <+: actions → g.along fullReloads before ≠ [] →
    (g.run before).repositories.Stores id
  unbarred : ∀ before, before <+: actions → (g.run before).cache.isBlacklisted id = false
  spared : ∀ action ∈ actions, action.SparesSensor g.cache.timeout id

theorem Undisturbed.of_prefix {g : Gateway Memory} {id : ObjectId}
    {actions before : List (Action Memory)} (h : g.Undisturbed id actions)
    (hbefore : before <+: actions) : g.Undisturbed id before := by
  obtain ⟨after, rfl⟩ := hbefore
  exact {
    clock := (isChain_instants_append h.clock).1
    stored := fun first hfirst => h.stored first (hfirst.trans (List.prefix_append ..))
    unbarred := fun first hfirst => h.unbarred first (hfirst.trans (List.prefix_append ..))
    spared := fun action haction => h.spared action (List.mem_append_left after haction) }

theorem Undisturbed.writtenSince {g : Gateway Memory} {id : ObjectId}
    {actions : List (Action Memory)} (h : g.Undisturbed id actions) {t : Nat}
    (ht : t ∈ g.along fullReloads actions)
    (hrecent : (g.run actions).clock.now ≤ t + g.cache.timeout.millis) :
    WrittenSince t ((g.run actions).cache.sensors.get? id) := by
  obtain ⟨before, action, after, rfl, hreload⟩ := exists_of_mem_along ht
  obtain ⟨rfl, rfl, summary, hok⟩ := eq_reloadAll_of_mem_fullReloads hreload
  -- from the reload on there is a successful one in every part of the run
  have hstored : ∀ first, first <+: after →
      ((g.run before).reloadAll.2.run first).repositories.Stores id := by
    intro first hfirst
    have hprefix : before ++ .reloadAll :: first <+: before ++ .reloadAll :: after :=
      (List.prefix_append_right_inj before).2 (List.cons_prefix_cons.2 ⟨rfl, hfirst⟩)
    have hsome : g.along fullReloads (before ++ .reloadAll :: first) ≠ [] := by
      rw [along_append]
      exact List.ne_nil_of_mem
        (List.mem_append_right _ (List.mem_append_left _ hreload))
    have hpoint := h.stored _ hprefix hsome
    rwa [run_append] at hpoint
  have htimeout : (g.run before).reloadAll.2.cache.timeout = g.cache.timeout :=
    (timeout_step (g.run before) .reloadAll).trans (timeout_run g before)
  have hwritten := writtenSince_reloadAll hok
    (stores_of_reloadAll hok (hstored [] List.nil_prefix))
  obtain ⟨hstep, hrest⟩ := isChain_instants_cons.1 (isChain_instants_append h.clock).2
  rw [run_append] at hrecent ⊢
  refine writtenSince_run (g := (g.run before).reloadAll.2) hwritten hstep hrest hstored ?_ ?_
  · intro action haction
    rw [htimeout]
    exact h.spared action (List.mem_append_right before (List.mem_cons_of_mem _ haction))
  · rw [htimeout]
    exact hrecent

/-- At every point of such a run at which the last full reload is not longer ago than records
are served, the sensor is available. -/
theorem available_between_reloads {g : Gateway Memory} {id : ObjectId}
    {actions : List (Action Memory)} (h : g.Undisturbed id actions) :
    ∀ before reading, before <+: actions →
      (g.along fullReloads before).getLast? = some reading →
      (g.run before).clock.now - reading ≤ g.cache.timeout.millis →
      ((g.run before).statusNow id).1 = .available := by
  intro before reading hbefore hlast hrecent
  have hnow : (g.run before).clock.now ≤ reading + g.cache.timeout.millis := by omega
  obtain ⟨record, hget, hstamp⟩ :=
    (h.of_prefix hbefore).writtenSince (List.mem_of_getLast? hlast) hnow
  have hfresh : (g.run before).cache.sensors.contains (g.run before).cache.timeout id
      (g.run before).clock.now = true := by
    rw [TimedMap.contains, hget, timeout_run, Option.any_some, Stamped.isFresh_iff]
    omega
  show (g.run before).cache.statusAt id (g.run before).clock.now = .available
  rw [Authorization.statusAt, h.unbarred before hbefore, hfresh]
  rfl

def unloadedSensor : SensorRecord where
  id := ⟨List.replicate 12 7, rfl⟩
  owner := ⟨List.replicate 16 7, rfl⟩

/-- A gateway that does not hold its sensor yet and whose clock moves by hand only. -/
def unloadedSample : Gateway Memory :=
  .start { clock := { time := 5 } } {} {} {} (Memory.apply {} (.putSensor unloadedSensor))

/-- A full reload and a sweep as long after it as records are served. -/
def boundaryRun : List (Action Memory) :=
  [.reloadAll, .outlet (.move (.advance (.ofSeconds 360))), .sweep]

theorem exists_states_boundaryRun :
    ∃ summary g₁ g₂ g₃, unloadedSample.reloadAll = (.ok summary, g₁) ∧
      (g₁.onOutlet (.move (.advance (.ofSeconds 360)))).2 = g₂ ∧ g₂.sweep.2 = g₃ ∧
      [g₁, g₂, g₃].map (·.clock.now) = [5, 360005, 360005] ∧
      ∀ g ∈ [g₁, g₂, g₃], g.repositories.Stores unloadedSensor.id ∧
        g.cache.isBlacklisted unloadedSensor.id = false := by
  have hworking : ∀ part, unloadedSample.repositories.isFailing part = false := by
    intro part
    cases part <;> rfl
  obtain ⟨served, metrics, hreload⟩ := reloadAll_of_working hworking
  obtain ⟨metrics', hsweep⟩ := sweep_snd
    (unloadedSample.reloadAll.2.onOutlet (.move (.advance (.ofSeconds 360)))).2
  simp only [hreload, onOutlet, Outlet.step] at hsweep
  refine ⟨_, _, _, _, hreload, rfl, rfl, ?_, ?_⟩
  · simp only [List.map_cons, List.map_nil, onOutlet, Outlet.step, hsweep]
    decide
  · simp only [List.forall_mem_cons, onOutlet, Outlet.step, hsweep]
    exact ⟨⟨⟨unloadedSensor, rfl, rfl⟩, rfl⟩, ⟨⟨unloadedSensor, rfl, rfl⟩, rfl⟩,
      ⟨⟨unloadedSensor, rfl, rfl⟩, rfl⟩, by simp⟩

theorem available_between_reloads_boundaryRun :
    unloadedSample.Undisturbed unloadedSensor.id boundaryRun ∧
      unloadedSample.along fullReloads boundaryRun = [5] ∧
      (unloadedSample.run boundaryRun).clock.now = 5 + unloadedSample.cache.timeout.millis ∧
      ((unloadedSample.run boundaryRun).statusNow unloadedSensor.id).1 = .available := by
  obtain ⟨summary, g₁, g₂, g₃, h₁, h₂, h₃, hclock, hstates⟩ := exists_states_boundaryRun
  simp only [List.map_cons, List.map_nil, List.cons.injEq, and_true] at hclock
  obtain ⟨hnow₁, hnow₂, hnow₃⟩ := hclock
  have hstart : unloadedSample.clock.now = 5 := by decide
  have hrun : unloadedSample.run boundaryRun = g₃ := by
    simp [boundaryRun, run, step, h₁, h₂, h₃]
  have hreloads : unloadedSample.along fullReloads boundaryRun = [5] := by
    simp [boundaryRun, fullReloads, step, h₁, hstart]
  have hnow : (unloadedSample.run boundaryRun).clock.now =
      5 + unloadedSample.cache.timeout.millis := by
    rw [hrun, hnow₃]
    decide
  have hall : ∀ before, before <+: boundaryRun →
      (unloadedSample.run before).repositories.Stores unloadedSensor.id ∧
        (unloadedSample.run before).cache.isBlacklisted unloadedSensor.id = false := by
    intro before hbefore
    simp only [boundaryRun, List.prefix_cons_iff, List.prefix_nil] at hbefore
    -- the run has four prefixes
    rcases hbefore with rfl | ⟨_, rfl, rfl | ⟨_, rfl, rfl | ⟨_, rfl, rfl⟩⟩⟩
    · exact ⟨⟨unloadedSensor, rfl, rfl⟩, rfl⟩
    all_goals
      simp only [run, List.foldl_cons, List.foldl_nil, step, h₁, Prod.map_snd, id, h₂, h₃]
      exact hstates _ (by simp)
  have h : unloadedSample.Undisturbed unloadedSensor.id boundaryRun := {
    clock := by simp [boundaryRun, instants, step, h₁, h₂, h₃, hstart, hnow₁, hnow₂, hnow₃]
    stored := fun before hbefore _ => (hall before hbefore).1
    unbarred := fun before hbefore => (hall before hbefore).2
    spared := by simp [boundaryRun, Action.SparesSensor] }
  refine ⟨h, hreloads, hnow, available_between_reloads h boundaryRun 5 (List.prefix_refl _) ?_ ?_⟩
  · rw [hreloads]
    rfl
  · omega

end Gateway

end SensorGateway
