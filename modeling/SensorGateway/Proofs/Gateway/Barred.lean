import SensorGateway.Proofs.Authorization.Entry
import SensorGateway.Proofs.Gateway.Submission
import SensorGateway.Repository.Memory

/-!
Barred sensors stay out. Only two operations lift the bar of a sensor; along any run without
them the sensor stays barred, and none of its measurements gets into the buffer. Reloads and
clearing the records do not touch the bar.
-/

namespace SensorGateway

/-- Reloads carry out no operation on the barred sensors. -/
theorem Authorization.blacklist_run_of_isReload (a : Authorization) (clock : Clock)
    {ops : List CacheOp} (hops : ∀ op ∈ ops, op.IsReload) :
    (a.run (CacheOp.timed clock ops)).blacklist = a.blacklist := by
  induction ops generalizing a clock with
  | nil => rfl
  | cons op ops ih =>
      have hop : op.IsReload := hops op List.mem_cons_self
      have hkept : (a.apply clock.now op).blacklist = a.blacklist := by
        cases op with
        | appendSensors _ | appendUsers _ | appendKeys _ | flushSensor _ => rfl
        | _ => exact hop.elim
      exact (ih _ _ fun op hop => hops op (List.mem_cons_of_mem _ hop)).trans hkept

namespace Gateway

variable {ρ : Type}

theorem Reloaded.blacklist {g g' : Gateway ρ} (h : Reloaded g g') :
    g'.cache.blacklist = g.cache.blacklist := by
  obtain ⟨repositories, ops, clock, schedule, metrics, hops, rfl⟩ := h
  exact g.cache.blacklist_run_of_isReload g.clock hops

theorem isBlacklisted_of_eq {g g' : Gateway ρ} {id : ObjectId}
    (h : g'.cache.blacklist = g.cache.blacklist) (hbarred : g.cache.isBlacklisted id = true) :
    g'.cache.isBlacklisted id = true :=
  (congrArg (Table.contains · id) h).trans hbarred

theorem isBlacklisted_perform {g : Gateway ρ} {id : ObjectId} (op : CacheOp)
    (hbarred : g.cache.isBlacklisted id = true) (hkeeps : ¬op.Unbars id) :
    (g.perform op).2.cache.isBlacklisted id = true := by
  obtain ⟨metrics, h⟩ := perform_snd g op
  rw [h]
  refine (Authorization.isBlacklisted_apply ..).2 ?_
  by_cases hbars : op.Bars id
  · exact .inl hbars
  · exact .inr ⟨⟨hbars, hkeeps⟩, hbarred⟩

def Action.LiftsBar (id : ObjectId) : Action ρ → Prop
  | .cache op => op.Unbars id
  | _ => False

theorem isBlacklisted_step [Directory ρ] {g : Gateway ρ} {id : ObjectId} {action : Action ρ}
    (hbarred : g.cache.isBlacklisted id = true) (hkeeps : ¬action.LiftsBar id) :
    (g.step action).2.cache.isBlacklisted id = true := by
  cases action with
  | cache op => exact isBlacklisted_perform op hbarred hkeeps
  | sweep => exact isBlacklisted_perform .cleanup hbarred not_false
  | reloadAll => exact isBlacklisted_of_eq (reloaded_reloadAll g).blacklist hbarred
  | reloadSensors ids =>
      exact isBlacklisted_of_eq (reloaded_reloadSensors g ids).blacklist hbarred
  | reloadSensor sensor =>
      exact isBlacklisted_of_eq (reloaded_reloadSensor g sensor).blacklist hbarred
  | submit m => exact isBlacklisted_of_eq (congrArg _ (cache_submit g m)) hbarred
  | submitDocument payload =>
      exact isBlacklisted_of_eq (congrArg _ (cache_submitDocument g payload)) hbarred
  | submitBatch ms => exact isBlacklisted_of_eq (congrArg _ (cache_submitBatch g ms)) hbarred
  | _ => exact hbarred

theorem isBlacklisted_run [Directory ρ] {g : Gateway ρ} {id : ObjectId}
    {actions : List (Action ρ)} (hbarred : g.cache.isBlacklisted id = true)
    (hkeeps : ∀ action ∈ actions, ¬action.LiftsBar id) :
    (g.run actions).cache.isBlacklisted id = true := by
  induction actions generalizing g with
  | nil => exact hbarred
  | cons action actions ih =>
      have hstep := isBlacklisted_step hbarred (hkeeps action List.mem_cons_self)
      exact ih hstep fun later hlater => hkeeps later (List.mem_cons_of_mem _ hlater)

/-! ### Submissions -/

/-- A measurement is rejected, the buffer and the records held stay as they were. -/
def TurnedAway (g : Gateway ρ) (outcome : Admission × Gateway ρ) : Prop :=
  outcome.1 = .rejected ∧ outcome.2.buffer = g.buffer ∧ outcome.2.cache = g.cache

/-- The measurements of a sensor are turned away, whichever way they are submitted. In a
batch they are rejected too, and to the buffer it is as if they had not been there. -/
structure TurnsAway (g : Gateway ρ) (id : ObjectId) : Prop where
  submit : ∀ m, m.sensorId = id → g.TurnedAway (g.submit m)
  submitDocument : ∀ payload m, Measurement.ofDocument payload = .ok m → m.sensorId = id →
    g.TurnedAway (g.submitDocument payload)
  submitBatch : ∀ ms, (g.submitBatch ms).1 = .ofAdmissions (g.outcomes (.submitBatch ms)) ∧
    List.Forall₂ (fun m outcome => m.sensorId = id → outcome = .rejected) ms
      (g.outcomes (.submitBatch ms)) ∧
    (g.submitBatch ms).2.buffer =
      (g.submitBatch (ms.filter fun m => m.sensorId ≠ id)).2.buffer ∧
    (g.submitBatch ms).2.cache = g.cache

theorem statusAt_of_isBlacklisted {a : Authorization} {id : ObjectId}
    (hbarred : a.isBlacklisted id = true) (tp : Nat) : a.statusAt id tp = .unavailable :=
  if_pos hbarred

theorem turnedAway_admitOne {g : Gateway ρ} {m : Measurement}
    (hbarred : g.cache.isBlacklisted m.sensorId = true) (tp : Nat) :
    g.TurnedAway (g.admitOne tp m) := by
  rw [admitOne, statusAt_of_isBlacklisted hbarred]
  exact ⟨rfl, rfl, rfl⟩

theorem rejected_admitAll {g : Gateway ρ} {id : ObjectId}
    (hbarred : g.cache.isBlacklisted id = true) (tp : Nat) (ms : List Measurement) :
    List.Forall₂ (fun m outcome => m.sensorId = id → outcome = .rejected) ms
      (g.admitAll tp ms).1 := by
  induction ms generalizing g with
  | nil => exact .nil
  | cons m ms ih =>
      -- admitting one measurement cannot lift the bar for the next ones
      have hlater : (g.admitOne tp m).2.cache.isBlacklisted id = true := by
        rw [cache_admitOne]
        exact hbarred
      refine .cons ?_ (ih hlater)
      rintro rfl
      exact (turnedAway_admitOne hbarred tp).1

theorem availableOf_filter_ne {g : Gateway ρ} {id : ObjectId}
    (hbarred : g.cache.isBlacklisted id = true) (tp : Nat) (ms : List Measurement) :
    g.availableOf tp (ms.filter fun m => m.sensorId ≠ id) = g.availableOf tp ms := by
  rw [availableOf, List.filter_filter, availableOf]
  refine List.filter_congr fun m _ => ?_
  by_cases hid : m.sensorId = id
  · simp [hid, statusAt_of_isBlacklisted hbarred]
  · simp [hid]

theorem turnsAway_of_isBlacklisted {g : Gateway ρ} {id : ObjectId}
    (hbarred : g.cache.isBlacklisted id = true) : g.TurnsAway id where
  submit m hid := by
    subst hid
    exact turnedAway_admitOne (g := g.readClock.2) hbarred g.clock.now
  submitDocument payload m hm hid := by
    rcases submitDocument_cases g payload with ⟨m', hm', h⟩ | ⟨e, he, -⟩
    · obtain rfl : m = m' := Except.ok.inj (hm.symm.trans hm')
      subst hid
      rw [h]
      exact turnedAway_admitOne (g := g.readClock.2) hbarred g.clock.now
    · cases hm.symm.trans he
  submitBatch ms :=
    ⟨rfl, rejected_admitAll (g := g.readClock.2) hbarred g.clock.now ms,
      buffer_submitBatch_congr (availableOf_filter_ne hbarred g.clock.now ms).symm,
      cache_submitBatch g ms⟩

/-- Once a sensor is barred, it is so at every point of a run in which the bar is not lifted,
and at every point its measurements are turned away. -/
theorem barred_stays_out [Directory ρ] {g : Gateway ρ} {id : ObjectId}
    {actions : List (Action ρ)} (hbarred : g.cache.isBlacklisted id = true)
    (hkeeps : ∀ action ∈ actions, ¬action.LiftsBar id) :
    ∀ before after, actions = before ++ after →
      (g.run before).cache.isBlacklisted id = true ∧ (g.run before).TurnsAway id := by
  rintro before after rfl
  have h := isBlacklisted_run hbarred fun action haction =>
    hkeeps action (List.mem_append_left after haction)
  exact ⟨h, turnsAway_of_isBlacklisted h⟩

def barredId : ObjectId :=
  ⟨List.replicate 12 1, rfl⟩

/-- A gateway with a barred sensor of which a record is held. -/
def barredSample : Gateway Memory :=
  let sensor : SensorRecord := { id := barredId, owner := ⟨List.replicate 16 1, rfl⟩ }
  performAll (.start { clock := { time := 5, tick := 1 } } {} {} {}
    (Memory.apply {} (.putSensor sensor))) [.appendSensors [sensor], .blacklist barredId]

/-- Clearing, reloading and lifting the bar of another sensor. -/
def barredRun : List (Action Memory) :=
  [.cache .clear, .reloadAll, .cache (.unblacklist ⟨List.replicate 12 9, rfl⟩),
    .submit ⟨barredId, "p"⟩, .submitBatch [⟨barredId, "q"⟩]]

theorem barred_stays_out_barredSample :
    barredSample.cache.isBlacklisted barredId = true ∧
      (∀ action ∈ barredRun, ¬action.LiftsBar barredId) ∧
      ∀ before after, barredRun = before ++ after →
        (barredSample.run before).cache.isBlacklisted barredId = true ∧
          (barredSample.run before).TurnsAway barredId := by
  have hbarred : barredSample.cache.isBlacklisted barredId = true := by decide
  have hkeeps : ∀ action ∈ barredRun, ¬action.LiftsBar barredId := by
    simp [barredRun, barredId, Action.LiftsBar, CacheOp.Unbars]
  exact ⟨hbarred, hkeeps, barred_stays_out hbarred hkeeps⟩

end Gateway

end SensorGateway
