import SensorGateway.Proofs.Authorization.Records
import SensorGateway.Proofs.Gateway.Submission

/-!
The history of the records held. Whatever is done with a gateway, what changes the records is
a list of operations, each at an instant that the clock shows: reloads find them out from the
repositories, and other actions than cache operations, sweeps and reloads carry out none. So
what is known of histories is known of every run.
-/

namespace SensorGateway

namespace Buffer

theorem cachedSensors_pushAll (b : Buffer) (m : Metrics) (payloads : List String) :
    (b.pushAll m payloads).2.2.cachedSensors = m.cachedSensors := by
  induction payloads generalizing b m with
  | nil => rfl
  | cons payload payloads ih =>
      rcases Nat.lt_or_ge b.size b.capacity with h | h
      · rw [pushAll_cons_of_lt h]
        exact ih { b with pending := b.pending.push payload } { m with pending := m.pending + 1 }
      · rw [pushAll_cons_of_le h]
        exact ih b { m with overflows := m.overflows + 1 }

/-- Nothing that is done with a buffer has to do with the sensors held. -/
theorem cachedSensors_step (b : Buffer) (o : Outlet) (action : Action) :
    (b.step o action).2.2.metrics.cachedSensors = o.metrics.cachedSensors := by
  cases action with
  | push payload =>
      simp only [step]
      rcases Nat.lt_or_ge b.size b.capacity with h | h
      · rw [push_of_lt h]
      · rw [push_of_le h]
  | pushAll payloads => exact cachedSensors_pushAll b o.metrics payloads
  | process =>
      simp only [step]
      by_cases h : b.contents = []
      · rw [process_of_nil h]
      · rw [process, drain_eq]
        simp only [if_neg h, Outlet.publish]
        rcases o.publisher.publish o.clock b.contents with ⟨_ | _, publisher, clock⟩ <;> rfl
  | drain => rfl

end Buffer

namespace Gateway

variable {ρ : Type}

/-- The records held and the gauge of the sensors among them. -/
def gauged (g : Gateway ρ) : Authorization × Nat :=
  (g.cache, g.metrics.cachedSensors)

theorem gauged_admitOne (g : Gateway ρ) (tp : Nat) (m : Measurement) :
    (g.admitOne tp m).2.gauged = g.gauged := by
  rcases admitOne_cases g tp m with ⟨-, h⟩ | ⟨-, h⟩ | ⟨-, -, h⟩ | ⟨-, -, h⟩
  all_goals
    rw [h]
    rfl

theorem gauged_admitAll (g : Gateway ρ) (tp : Nat) (ms : List Measurement) :
    (g.admitAll tp ms).2.gauged = g.gauged := by
  induction ms generalizing g with
  | nil => rfl
  | cons m ms ih => exact (ih _).trans (gauged_admitOne g tp m)

theorem gauged_submitDocument (g : Gateway ρ) (payload : String) :
    (g.submitDocument payload).2.gauged = g.gauged := by
  rcases submitDocument_cases g payload with ⟨m, -, h⟩ | ⟨e, -, h⟩
  · rw [h]
    exact gauged_admitOne g.readClock.2 g.clock.now m
  · rw [h]
    rfl

theorem gauged_onBuffer (g : Gateway ρ) (action : Buffer.Action) :
    (g.onBuffer action).2.gauged = g.gauged :=
  Prod.ext rfl (Buffer.cachedSensors_step g.buffer g.toOutlet action)

theorem gauged_finishReload (g : Gateway ρ) : g.finishReload.gauged = g.gauged :=
  rfl

variable [Directory ρ]

/-- An action does nothing else to the records held and to their gauge. -/
theorem gauged_step (g : Gateway ρ) (action : Action ρ) :
    ∃ r : ρ, (g.step action).2.gauged =
      (performAll { g with repositories := r } (g.carried action)).gauged := by
  cases action with
  | cache op => exact ⟨g.repositories, rfl⟩
  | sweep => exact ⟨g.repositories, rfl⟩
  | reloadAll =>
      rcases reloadAll_cases g with ⟨e, r, hcarried, h⟩ | ⟨harvest, r, hcarried, h⟩
      · exact ⟨r, by rw [hcarried, step, Prod.map_snd, h]; rfl⟩
      · exact ⟨r, by rw [hcarried, step, Prod.map_snd, h]; exact gauged_finishReload _⟩
  | reloadSensors ids =>
      by_cases hids : ids = []
      · subst hids
        exact ⟨g.repositories, rfl⟩
      · rcases reloadSensors_cases g hids with ⟨e, r, hcarried, h⟩ | ⟨harvest, r, hcarried, h⟩
        · exact ⟨r, by rw [hcarried, step, Prod.map_snd, h]; rfl⟩
        · exact ⟨r, by rw [hcarried, step, Prod.map_snd, h]; rfl⟩
  | reloadSensor id =>
      rcases reloadSensor_cases g id with ⟨e, r, hcarried, h⟩ | ⟨found, r, hcarried, h⟩
      · exact ⟨r, by rw [hcarried, step, Prod.map_snd, h]; rfl⟩
      · exact ⟨r, by rw [hcarried, step, Prod.map_snd, h]; rfl⟩
  | submit m => exact ⟨g.repositories, gauged_admitOne g.readClock.2 g.clock.now m⟩
  | submitDocument payload => exact ⟨g.repositories, gauged_submitDocument g payload⟩
  | submitBatch ms => exact ⟨g.repositories, gauged_admitAll g.readClock.2 g.clock.now ms⟩
  | buffer action => exact ⟨g.repositories, gauged_onBuffer g action⟩
  | outlet action => exact ⟨g.repositories, by cases action <;> rfl⟩
  | _ => exact ⟨g.repositories, rfl⟩

/-- The operations of an action, each with what the clock shows when it is carried out. -/
def history (g : Gateway ρ) (action : Action ρ) : List (Nat × CacheOp) :=
  CacheOp.timed g.clock (g.carried action)

theorem history_of_carried_singleton {g : Gateway ρ} {action : Action ρ} {op : CacheOp}
    (h : g.carried action = [op]) : g.history action = [(g.clock.now, op)] := by
  rw [history, h]
  rfl

theorem cache_step (g : Gateway ρ) (action : Action ρ) :
    (g.step action).2.cache = g.cache.run (g.history action) := by
  obtain ⟨r, hstep⟩ := gauged_step g action
  obtain ⟨metrics, hperform⟩ :=
    performAll_eq { g with repositories := r } (g.carried action)
  rw [hperform] at hstep
  exact congrArg Prod.fst hstep

theorem cache_run (g : Gateway ρ) (actions : List (Action ρ)) :
    (g.run actions).cache = g.cache.run (g.along history actions) := by
  induction actions generalizing g with
  | nil => rfl
  | cons action actions ih =>
      rw [along_cons, Authorization.run_append, ← cache_step]
      exact ih (g.step action).2

/-- After any run from a gateway without records, over whatever repositories, the records held
are those that were listed in its history under their own identities, no revoked key is among
them, and looking up an identity finds no record of another one. -/
theorem records_under_identities (g : Gateway ρ) (timeout : Span) (actions : List (Action ρ)) :
    let first := { g with cache := { timeout := timeout } }
    let last := first.run actions
    let past := first.along history actions
    last.cache = first.cache.run past ∧ last.cache.KeepsRecords past := by
  intro first last past
  have hcache : last.cache = first.cache.run past := cache_run first actions
  refine ⟨hcache, ?_⟩
  rw [hcache]
  exact Authorization.keepsRecords_run timeout past

end Gateway

end SensorGateway
