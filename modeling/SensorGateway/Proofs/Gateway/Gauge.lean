import Mathlib.Data.List.DropRight
import SensorGateway.Proofs.Gateway.History
import SensorGateway.Proofs.Reload.Refresh

/-!
How far the gauge of the sensors held is off. It is set when sensors are appended, when all
records are dropped and when some are dropped for their age; to drop a single sensor leaves it
as it is. So the gauge is never too low, and it is too high by exactly the sensors that were
dropped one by one since it was last set.
-/

namespace SensorGateway

/-- What happens to the gauge of the sensors held. -/
inductive GaugeEvent where
  | set
  /-- A sensor is dropped and the gauge is left as it is. -/
  | missed
  deriving DecidableEq, Repr

namespace GaugeEvent

/-- How many sensors were dropped since the gauge was last set. -/
def drift (events : List GaugeEvent) : Nat :=
  (events.rtakeWhile (· ≠ set)).length

theorem drift_set (events : List GaugeEvent) : drift (events ++ [set]) = 0 := by
  rw [drift, List.rtakeWhile_concat_neg _ _ _ (by simp), List.length_nil]

theorem drift_missed (events : List GaugeEvent) :
    drift (events ++ [missed]) = drift events + 1 := by
  rw [drift, List.rtakeWhile_concat_pos _ _ _ (by simp), List.length_append, List.length_singleton,
    drift]

end GaugeEvent

namespace Authorization

def gaugeEvents (a : Authorization) (now : Nat) (op : CacheOp) : List GaugeEvent :=
  match op with
  | .appendSensors _ | .clear => [.set]
  | .cleanup | .cleanupFor _ =>
    if (a.apply now op).recordCount < a.recordCount then [.set] else []
  | .flushSensor id => if a.sensors.table.contains id then [.missed] else []
  | _ => []

def gaugeHistory (a : Authorization) (history : List (Nat × CacheOp)) : List GaugeEvent :=
  noteAlong (fun a e => a.apply e.1 e.2) (fun a e => a.gaugeEvents e.1 e.2) a history

theorem gaugeHistory_append (a : Authorization) (history history' : List (Nat × CacheOp)) :
    a.gaugeHistory (history ++ history') =
      a.gaugeHistory history ++ (a.run history).gaugeHistory history' :=
  noteAlong_append ..

theorem gaugeHistory_singleton (a : Authorization) (now : Nat) (op : CacheOp) :
    a.gaugeHistory [(now, op)] = a.gaugeEvents now op :=
  List.append_nil _

theorem gaugeEvents_of_ageBound {a : Authorization} {op : CacheOp} {bound : Span}
    (h : op.ageBound? a.timeout = some bound) (now : Nat) :
    a.gaugeEvents now op =
      if (a.evict bound now).recordCount < a.recordCount then [.set] else [] := by
  cases op with
  | cleanup | cleanupFor =>
      obtain rfl := Option.some.inj h
      rfl
  | _ => cases h

/-- If no record is dropped for its age, then no sensor is. -/
theorem size_sensors_evict {a : Authorization} {bound : Span} {now : Nat}
    (h : ¬(a.evict bound now).recordCount < a.recordCount) :
    (a.evict bound now).sensors.size = a.sensors.size := by
  have hsensors : (a.evict bound now).sensors.size ≤ a.sensors.size :=
    Table.size_filter_le ..
  have husers : (a.evict bound now).users.size ≤ a.users.size := Table.size_filter_le ..
  have hkeys : (a.evict bound now).keys.size ≤ a.keys.size := Table.size_filter_le ..
  simp only [recordCount] at h
  omega

end Authorization

namespace Gateway

variable {ρ : Type}

theorem cachedSensors_noteEvicted (g : Gateway ρ) (removed : Nat) :
    (g.noteEvicted removed).metrics.cachedSensors =
      if removed = 0 then g.metrics.cachedSensors else g.cache.sensors.size := by
  unfold noteEvicted
  split <;> rfl

/-- Dropping records for their age sets the gauge if there are any. -/
theorem gauged_perform_of_ageBound {g : Gateway ρ} {op : CacheOp} {bound : Span}
    (h : op.ageBound? g.cache.timeout = some bound) :
    (g.perform op).2.gauged = (g.cache.evict bound g.clock.now,
      if (g.cache.evict bound g.clock.now).recordCount < g.cache.recordCount
      then (g.cache.evict bound g.clock.now).sensors.size else g.metrics.cachedSensors) := by
  let swept : Gateway ρ := { g with
    clock := g.clock.afterReading
    cache := g.cache.evict bound g.clock.now }
  have hperform : (g.perform op).2 =
      swept.noteEvicted (g.cache.recordCount - swept.cache.recordCount) := by
    cases op with
    | cleanup | cleanupFor =>
        obtain rfl := Option.some.inj h
        rfl
    | _ => cases h
  obtain ⟨metrics, hcache⟩ :=
    noteEvicted_eq swept (g.cache.recordCount - swept.cache.recordCount)
  refine Prod.ext ?_ ?_
  · rw [hperform, hcache]
    rfl
  · rw [hperform]
    refine (cachedSensors_noteEvicted ..).trans ?_
    rw [← ite_not]
    exact if_congr Nat.sub_ne_zero_iff_lt rfl rfl

variable [Directory ρ]

def gaugeEvents (g : Gateway ρ) (action : Action ρ) : List GaugeEvent :=
  g.cache.gaugeHistory (g.history action)

/-- Whether an action counts the sensors held: sensors are appended, by hand or by a reload, all
records are dropped, or some record is dropped for its age. -/
def CountsSensors (g : Gateway ρ) (action : Action ρ) : Prop :=
  match action with
  | .cache (.appendSensors _) | .cache .clear => True
  | .cache .cleanup | .cache (.cleanupFor _) | .sweep =>
    (g.step action).2.cache.recordCount < g.cache.recordCount
  | .reloadAll => ∃ summary, (g.step action).1 = .reloaded (.ok summary)
  | .reloadSensors ids => ids ≠ [] ∧ ∃ summary, (g.step action).1 = .reloaded (.ok summary)
  | .reloadSensor _ => (g.step action).1 = .reloadedOne (.ok true)
  | _ => False

/-- Whether an action drops a single sensor: by hand, or because it no longer exists when it is
reloaded. -/
def FlushesSensor (g : Gateway ρ) (action : Action ρ) (id : ObjectId) : Prop :=
  action = .cache (.flushSensor id) ∨
    action = .reloadSensor id ∧ (g.step action).1 = .reloadedOne (.ok false)

/-- What an action can do to the gauge: it counts the sensors held and sets the gauge, or it
drops a sensor and leaves the gauge as it is, or it changes neither the gauge nor the number of
sensors. -/
inductive Gauges (g : Gateway ρ) (action : Action ρ) : Prop where
  | counted (hcounts : g.CountsSensors action)
      (hevents : ∃ before, g.gaugeEvents action = before ++ [.set])
      (hgauge : (g.step action).2.metrics.cachedSensors =
        (g.step action).2.cache.stats.sensors)
  | missed (id : ObjectId) (hcounts : ¬g.CountsSensors action)
      (hflushes : g.FlushesSensor action id)
      (hheld : ∃ entry, g.cache.sensors.get? id = some entry)
      (hevents : g.gaugeEvents action = [.missed])
      (hgauge : (g.step action).2.metrics.cachedSensors = g.metrics.cachedSensors)
      (hsize : g.cache.stats.sensors = (g.step action).2.cache.stats.sensors + 1)
  | kept (hcounts : ¬g.CountsSensors action) (hevents : g.gaugeEvents action = [])
      (hgauge : (g.step action).2.metrics.cachedSensors = g.metrics.cachedSensors)
      (hsize : (g.step action).2.cache.stats.sensors = g.cache.stats.sensors)

theorem gauges_of_ageBound {g : Gateway ρ} {action : Action ρ} (op : CacheOp) {bound : Span}
    (hop : op.ageBound? g.cache.timeout = some bound)
    (hcounts : g.CountsSensors action ↔
      (g.step action).2.cache.recordCount < g.cache.recordCount)
    (hcarried : g.carried action = [op])
    (hgauged : (g.step action).2.gauged = (g.perform op).2.gauged) : g.Gauges action := by
  have hevents : g.gaugeEvents action = g.cache.gaugeEvents g.clock.now op := by
    rw [gaugeEvents, history_of_carried_singleton hcarried, Authorization.gaugeHistory_singleton]
  rw [Authorization.gaugeEvents_of_ageBound hop] at hevents
  rw [gauged_perform_of_ageBound hop] at hgauged
  have hcache : (g.step action).2.cache = g.cache.evict bound g.clock.now :=
    congrArg Prod.fst hgauged
  have hgauge := congrArg Prod.snd hgauged
  rw [hcache] at hcounts
  by_cases h : (g.cache.evict bound g.clock.now).recordCount < g.cache.recordCount
  · rw [if_pos h] at hevents hgauge
    refine .counted (hcounts.2 h) ⟨[], hevents⟩ ?_
    rw [hcache]
    exact hgauge
  · rw [if_neg h] at hevents hgauge
    refine .kept (mt hcounts.1 h) hevents hgauge ?_
    rw [hcache]
    exact Authorization.size_sensors_evict h

/-- Dropping a single sensor leaves the gauge as it is. -/
theorem gauges_of_flush {g : Gateway ρ} {action : Action ρ} {id : ObjectId}
    (hcounts : ¬g.CountsSensors action) (hflushes : g.FlushesSensor action id)
    (hcarried : g.carried action = [.flushSensor id])
    (hgauge : (g.step action).2.metrics.cachedSensors = g.metrics.cachedSensors) :
    g.Gauges action := by
  have hhistory := history_of_carried_singleton hcarried
  have hevents : g.gaugeEvents action =
      if g.cache.sensors.table.contains id then [.missed] else [] := by
    rw [gaugeEvents, hhistory, Authorization.gaugeHistory_singleton]
    rfl
  have hsize : (g.step action).2.cache.stats.sensors =
      (g.cache.sensors.table.erase id).size := by
    rw [cache_step, hhistory]
    rfl
  rw [Table.size_erase] at hsize
  by_cases hheld : g.cache.sensors.table.contains id = true
  · rw [if_pos hheld] at hevents hsize
    have hpos := Table.size_pos_of_contains hheld
    refine .missed id hcounts hflushes (Option.isSome_iff_exists.1 hheld) hevents hgauge ?_
    rw [hsize]
    exact (Nat.sub_add_cancel hpos).symm
  · rw [if_neg hheld] at hevents hsize
    exact .kept hcounts hevents hgauge hsize

/-- An action that carries out nothing leaves the gauge and the sensors as they are. -/
theorem gauges_of_nothing {g : Gateway ρ} {action : Action ρ}
    (hcounts : ¬g.CountsSensors action) (hcarried : g.carried action = []) :
    g.Gauges action := by
  obtain ⟨r, hstep⟩ := gauged_step g action
  rw [hcarried] at hstep
  have hevents : g.gaugeEvents action = [] := by
    rw [gaugeEvents, history, hcarried]
    rfl
  exact .kept hcounts hevents (congrArg Prod.snd hstep)
    (congrArg (·.1.stats.sensors) hstep)

omit [Directory ρ] in
/-- The users and keys of a reload leave the gauge as the sensors have set it. -/
theorem counted_ops (g : Gateway ρ) (harvest : Harvest) :
    (g.performAll harvest.ops).metrics.cachedSensors =
      (g.performAll harvest.ops).cache.stats.sensors :=
  rfl

omit [Directory ρ] in
theorem counted_finishReload {g : Gateway ρ}
    (h : g.metrics.cachedSensors = g.cache.stats.sensors) :
    g.finishReload.metrics.cachedSensors = g.finishReload.cache.stats.sensors :=
  h

omit [Directory ρ] in
theorem counted_opsFor (g : Gateway ρ) (harvest : Harvest) (ids : List ObjectId) :
    (g.performAll (harvest.opsFor ids)).metrics.cachedSensors =
      (g.performAll (harvest.opsFor ids)).cache.stats.sensors := by
  rw [Harvest.opsFor, performAll_append]
  exact counted_ops _ harvest

theorem gauges_reloadAll (g : Gateway ρ) : g.Gauges .reloadAll := by
  rcases reloadAll_cases g with ⟨e, r, hcarried, h⟩ | ⟨harvest, r, hcarried, h⟩
  · refine gauges_of_nothing ?_ hcarried
    rintro ⟨summary, hreply⟩
    rw [step, h] at hreply
    cases hreply
  · refine .counted ⟨_, congrArg Reply.reloaded (congrArg Prod.fst h)⟩ ⟨[], ?_⟩ ?_
    · rw [gaugeEvents, history, hcarried]
      rfl
    · have hlast : (g.step .reloadAll).2 =
          (performAll { g with repositories := r } harvest.ops).finishReload :=
        congrArg Prod.snd h
      rw [hlast]
      exact counted_finishReload (counted_ops _ harvest)

theorem gauges_reloadSensors (g : Gateway ρ) (ids : List ObjectId) :
    g.Gauges (.reloadSensors ids) := by
  by_cases hids : ids = []
  · subst hids
    exact gauges_of_nothing (fun hcounts => hcounts.1 rfl) g.reloadSensors_nil.1
  · rcases reloadSensors_cases g hids with ⟨e, r, hcarried, h⟩ | ⟨harvest, r, hcarried, h⟩
    · refine gauges_of_nothing ?_ hcarried
      rintro ⟨-, summary, hreply⟩
      rw [step, h] at hreply
      cases hreply
    · refine .counted ⟨hids, _, congrArg Reply.reloaded (congrArg Prod.fst h)⟩ ?_ ?_
      · -- the missing sensors are dropped first, and then those found are counted
        rw [gaugeEvents, history, hcarried, Harvest.opsFor, CacheOp.timed_flushSensors,
          Authorization.gaugeHistory_append]
        exact ⟨_, rfl⟩
      · rw [step, Prod.map_snd, h]
        exact counted_opsFor _ harvest ids

theorem gauges_reloadSensor (g : Gateway ρ) (id : ObjectId) : g.Gauges (.reloadSensor id) := by
  rcases reloadSensor_cases g id with ⟨e, r, hcarried, h⟩ | ⟨found, r, hcarried, h⟩
  · refine gauges_of_nothing ?_ hcarried
    intro hreply
    rw [CountsSensors, step, h] at hreply
    cases hreply
  · have hreply := congrArg Reply.reloadedOne (congrArg Prod.fst h)
    cases found with
    | none =>
        refine gauges_of_flush ?_ (.inr ⟨rfl, hreply⟩) hcarried ?_
        · intro hcounts
          cases hreply.symm.trans hcounts
        · rw [step, Prod.map_snd, h]
          rfl
    | some found =>
        refine .counted hreply ⟨[], ?_⟩ ?_
        · rw [gaugeEvents, history, hcarried]
          rfl
        · rw [step, Prod.map_snd, h]
          rfl

theorem gauges (g : Gateway ρ) (action : Action ρ) : g.Gauges action := by
  cases action with
  | cache op =>
      cases op with
      | appendSensors sensors => exact .counted trivial ⟨[], rfl⟩ rfl
      | clear => exact .counted trivial ⟨[], rfl⟩ rfl
      | cleanup => exact gauges_of_ageBound .cleanup rfl Iff.rfl rfl rfl
      | cleanupFor maxAge =>
          exact gauges_of_ageBound (.cleanupFor maxAge) rfl Iff.rfl rfl rfl
      | flushSensor id => exact gauges_of_flush not_false (.inl rfl) rfl rfl
      | _ => exact .kept not_false rfl rfl rfl
  | sweep => exact gauges_of_ageBound .cleanup rfl Iff.rfl rfl rfl
  | reloadAll => exact gauges_reloadAll g
  | reloadSensors ids => exact gauges_reloadSensors g ids
  | reloadSensor id => exact gauges_reloadSensor g id
  | _ => exact gauges_of_nothing not_false rfl

/-! ### Runs -/

/-- The gauge is too high by the sensors that were dropped since it was set. -/
theorem cachedSensors_step {g : Gateway ρ} {events : List GaugeEvent}
    (h : g.metrics.cachedSensors = g.cache.stats.sensors + GaugeEvent.drift events)
    (action : Action ρ) :
    (g.step action).2.metrics.cachedSensors = (g.step action).2.cache.stats.sensors +
      GaugeEvent.drift (events ++ g.gaugeEvents action) := by
  cases g.gauges action with
  | counted _ hevents hgauge =>
      obtain ⟨before, hevents⟩ := hevents
      rw [hevents, ← List.append_assoc, GaugeEvent.drift_set, hgauge, Nat.add_zero]
  | missed id _ _ _ hevents hgauge hsize =>
      rw [hevents, GaugeEvent.drift_missed, hgauge, h, hsize]
      omega
  | kept _ hevents hgauge hsize =>
      rw [hevents, List.append_nil, hgauge, h, hsize]

theorem cachedSensors_run {g : Gateway ρ} {events : List GaugeEvent}
    (h : g.metrics.cachedSensors = g.cache.stats.sensors + GaugeEvent.drift events)
    (actions : List (Action ρ)) :
    (g.run actions).metrics.cachedSensors = (g.run actions).cache.stats.sensors +
      GaugeEvent.drift (events ++ g.along gaugeEvents actions) := by
  induction actions generalizing g events with
  | nil => simpa [run] using h
  | cons action actions ih =>
      have hrest := ih (cachedSensors_step h action)
      rwa [List.append_assoc] at hrest

/-- After any run without records and from a gauge at zero, the gauge shows the number of
sensors held and besides, for each sensor that was dropped by itself since the gauge was last
set, one that is no longer there. Which actions set it and which drop a sensor by itself is told
of any state, reachable or not. -/
theorem gauge_drifts_by_flushes :
    (∀ (g : Gateway ρ) (timeout : Span) (actions : List (Action ρ)),
      let first := { g with
        cache := { timeout := timeout }
        metrics := { g.metrics with cachedSensors := 0 } }
      let last := first.run actions
      last.metrics.cachedSensors =
        last.cache.stats.sensors + GaugeEvent.drift (first.along gaugeEvents actions)) ∧
    ∀ (g : Gateway ρ) (action : Action ρ), g.Gauges action := by
  refine ⟨?_, gauges⟩
  intro g timeout actions first last
  have hfirst : first.metrics.cachedSensors =
      first.cache.stats.sensors + GaugeEvent.drift [] := rfl
  exact cachedSensors_run hfirst actions

/-- A sensor is appended and then dropped by itself. -/
example :
    let sensor : SensorRecord :=
      { id := ⟨List.replicate 12 1, rfl⟩, owner := ⟨List.replicate 16 2, rfl⟩ }
    let g : Gateway Memory := .start { clock := { time := 0 } } {} {} {} {}
    let last := g.run [.cache (.appendSensors [sensor]), .cache (.flushSensor sensor.id)]
    last.metrics.cachedSensors = 1 ∧ last.cache.stats.sensors = 0 := by
  decide

end Gateway

end SensorGateway
