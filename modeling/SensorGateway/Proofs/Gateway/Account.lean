import SensorGateway.Proofs.Gateway.Payloads
import SensorGateway.Proofs.Pool.Account

/-!
The metrics of a gateway are an account of its run. Submissions, the buffer, cleanups and
reloads each keep it, and `metrics_account` reads it at the end of any run from zero, of a
gateway and of a pool of buffers.
-/

namespace SensorGateway

open Metrics (Account)

namespace Event

/-- The number of events that are outcomes of measurements. -/
def outcomes (events : List Event) : Nat :=
  events.count .admitted + events.count .rejected + events.count .deferred +
    events.count .overflowed

theorem outcomes_append (events events' : List Event) :
    outcomes (events ++ events') = outcomes events + outcomes events' := by
  simp only [outcomes, List.count_append]
  omega

theorem outcomes_replicate {e : Event} (h : outcomes [e] = 0) (n : Nat) :
    outcomes (List.replicate n e) = 0 := by
  induction n with
  | zero => rfl
  | succ n ih => rw [List.replicate_succ, ← List.singleton_append, outcomes_append, h, ih]

theorem outcomes_perm {events events' : List Event} (h : events.Perm events') :
    outcomes events = outcomes events' := by
  simp only [outcomes, h.count_eq]

end Event

namespace Admission

def event : Admission → Event
  | .admitted => .admitted
  | .rejected => .rejected
  | .deferred _ => .deferred
  | .overflow _ => .overflowed

theorem outcomes_event (a : Admission) : Event.outcomes [a.event] = 1 := by
  cases a <;> rfl

theorem outcomes_events (outcomes : List Admission) :
    Event.outcomes (outcomes.map event) = outcomes.length := by
  induction outcomes with
  | nil => rfl
  | cons a outcomes ih =>
      rw [List.map_cons, ← List.singleton_append, Event.outcomes_append, outcomes_event, ih,
        List.length_cons, Nat.add_comm]

end Admission

namespace BatchOutcome

/-- The events of several measurements, as the outcome sums them up. -/
def events (o : BatchOutcome) : List Event :=
  List.replicate o.admitted .admitted ++ List.replicate o.rejected .rejected ++
    List.replicate o.deferred.length .deferred ++
    List.replicate o.overflowed.length .overflowed

theorem perm_events_ofAdmissions (outcomes : List Admission) :
    (outcomes.map Admission.event).Perm (events (.ofAdmissions outcomes)) := by
  rw [List.perm_iff_count]
  intro e
  induction outcomes with
  | nil => rfl
  | cons a outcomes ih =>
      simp only [events, ofAdmissions, List.count_append, List.count_replicate] at ih ⊢
      rw [List.map_cons, List.count_cons, ih]
      cases a <;> cases e <;>
        simp [Admission.event, Admission.deferred?, Admission.overflow?, List.filterMap_cons]

end BatchOutcome

def CacheOp.events (report : Nat) : CacheOp → List Event
  | .cleanup | .cleanupFor _ => List.replicate report .evicted
  | _ => []

theorem CacheOp.outcomes_events (op : CacheOp) (report : Nat) :
    Event.outcomes (op.events report) = 0 := by
  unfold events
  split
  · exact Event.outcomes_replicate rfl report
  · exact Event.outcomes_replicate rfl report
  · rfl

theorem Buffer.Action.outcomes_events (action : Buffer.Action) (reply : Buffer.Reply) :
    Event.outcomes (action.events reply) = 0 := by
  unfold events
  split
  · rfl
  · exact Event.outcomes_replicate rfl _
  · split <;> rfl
  · rfl
  · rfl

theorem CacheOp.IsReload.events {op : CacheOp} (h : op.IsReload) (report : Nat) :
    op.events report = [] := by
  cases op <;> first | rfl | cases h

namespace Gateway

variable {ρ : Type} {g : Gateway ρ} {noted : List Event}

theorem account_admitOne (h : g.metrics.Account noted g.buffer.size) (tp : Nat)
    (m : Measurement) :
    (g.admitOne tp m).2.metrics.Account (noted ++ [(g.admitOne tp m).1.event])
      (g.admitOne tp m).2.buffer.size := by
  rcases admitOne_cases g tp m with ⟨-, hcase⟩ | ⟨-, hcase⟩ | ⟨-, -, hcase⟩ | ⟨-, -, hcase⟩
  · rw [hcase]
    exact h.note .rejected
  · rw [hcase]
    exact h.note .deferred
  · rw [hcase]
    have hpushed : Account { g.metrics with pending := g.metrics.pending + 1 } noted
        (g.buffer.pending.push m.payload).size :=
      h.setPending (by rw [h.pending, Array.size_push]; rfl)
    exact hpushed.note .admitted
  · rw [hcase]
    exact h.note .overflowed

theorem account_admitAll (h : g.metrics.Account noted g.buffer.size) (tp : Nat)
    (ms : List Measurement) :
    (g.admitAll tp ms).2.metrics.Account (noted ++ (g.admitAll tp ms).1.map Admission.event)
      (g.admitAll tp ms).2.buffer.size := by
  induction ms generalizing g noted with
  | nil => simpa [admitAll] using h
  | cons m ms ih =>
      have hrest := ih (account_admitOne h tp m)
      rwa [List.append_assoc] at hrest

theorem account_noteEvicted (h : g.metrics.Account noted g.buffer.size) (removed : Nat) :
    (g.noteEvicted removed).metrics.Account (noted ++ List.replicate removed .evicted)
      (g.noteEvicted removed).buffer.size := by
  unfold noteEvicted
  split
  · rename_i hnone
    subst hnone
    simpa using h
  · exact (h.setSensors g.cache.sensors.size).evict removed

theorem account_perform (h : g.metrics.Account noted g.buffer.size) (op : CacheOp) :
    (g.perform op).2.metrics.Account (noted ++ op.events (g.perform op).1)
      (g.perform op).2.buffer.size := by
  let g' : Gateway ρ := { g with
    clock := if op.readsClock then g.clock.afterReading else g.clock
    cache := g.cache.apply g.clock.now op }
  have h' : g'.metrics.Account noted g'.buffer.size := h
  cases op with
  | appendSensors sensors =>
      simp only [CacheOp.events, List.append_nil]
      exact h'.setSensors g'.cache.sensors.size
  | clear =>
      simp only [CacheOp.events, List.append_nil]
      exact h'.setSensors g'.cache.sensors.size
  | cleanup => exact account_noteEvicted h' _
  | cleanupFor maxAge => exact account_noteEvicted h' _
  | _ =>
      simp only [CacheOp.events, List.append_nil]
      exact h'

theorem account_performAll (h : g.metrics.Account noted g.buffer.size) {ops : List CacheOp}
    (hops : ∀ op ∈ ops, op.IsReload) :
    (g.performAll ops).metrics.Account noted (g.performAll ops).buffer.size := by
  induction ops generalizing g with
  | nil => exact h
  | cons op ops ih =>
      have hfirst := account_perform h op
      rw [(hops op List.mem_cons_self).events, List.append_nil] at hfirst
      exact ih hfirst fun later hlater => hops later (List.mem_cons_of_mem _ hlater)

theorem account_finishReload (h : g.metrics.Account noted g.buffer.size) :
    g.finishReload.metrics.Account (noted ++ [.reloaded]) g.finishReload.buffer.size :=
  h.note .reloaded

section Runs

variable [Directory ρ]

def events (g : Gateway ρ) (action : Action ρ) : List Event :=
  match action, (g.step action).1 with
  | .cache op, .count n => op.events n
  | .sweep, .count n => List.replicate n .evicted
  | .reloadAll, .reloaded (.ok _) => [.reloaded]
  | .submit _, .admission a => [a.event]
  | .submitDocument _, .admission a => [a.event]
  | .submitBatch _, .outcome o => o.events
  | .buffer action, .buffer reply => action.events reply
  | _, _ => []

theorem account_reloadAll (h : g.metrics.Account noted g.buffer.size) :
    g.reloadAll.2.metrics.Account (noted ++ g.events .reloadAll) g.reloadAll.2.buffer.size := by
  rcases reloadAll_cases g with ⟨e, r, -, hcase⟩ | ⟨harvest, r, -, hcase⟩
  · simpa only [events, step, Prod.map_fst, hcase, List.append_nil] using h
  · have hmerged := account_performAll (g := { g with repositories := r }) h
      harvest.isReload_ops
    simp only [events, step, Prod.map_fst, hcase]
    exact account_finishReload hmerged

theorem account_reloadSensors (h : g.metrics.Account noted g.buffer.size)
    (ids : List ObjectId) :
    (g.reloadSensors ids).2.metrics.Account noted (g.reloadSensors ids).2.buffer.size := by
  obtain ⟨r, ops, hops, hcase⟩ := exists_reloadSensors g ids
  rw [hcase]
  exact account_performAll (g := { g with repositories := r }) h hops

theorem account_reloadSensor (h : g.metrics.Account noted g.buffer.size) (id : ObjectId) :
    (g.reloadSensor id).2.metrics.Account noted (g.reloadSensor id).2.buffer.size := by
  obtain ⟨r, ops, hops, hcase⟩ := exists_reloadSensor g id
  rw [hcase]
  exact account_performAll (g := { g with repositories := r }) h hops

omit [Directory ρ] in
theorem account_submitDocument (h : g.metrics.Account noted g.buffer.size) (payload : String) :
    (g.submitDocument payload).2.metrics.Account
      (noted ++ [(g.submitDocument payload).1.event])
      (g.submitDocument payload).2.buffer.size := by
  rcases submitDocument_cases g payload with ⟨m, -, hcase⟩ | ⟨e, -, hcase⟩
  · rw [hcase]
    exact account_admitOne (g := g.readClock.2) h g.readClock.1 m
  · rw [hcase]
    exact h.note .rejected

/-- Whatever is done with a gateway, its metrics stay an account of the answers. -/
theorem account_step (h : g.metrics.Account noted g.buffer.size) (action : Action ρ) :
    (g.step action).2.metrics.Account (noted ++ g.events action)
      (g.step action).2.buffer.size := by
  cases action with
  | cache op => exact account_perform h op
  | sweep => exact account_perform h .cleanup
  | reloadAll => exact account_reloadAll h
  | reloadSensors ids =>
      simp only [events, List.append_nil]
      exact account_reloadSensors h ids
  | reloadSensor id =>
      simp only [events, List.append_nil]
      exact account_reloadSensor h id
  | submit m => exact account_admitOne (g := g.readClock.2) h g.readClock.1 m
  | submitDocument payload => exact account_submitDocument h payload
  | submitBatch ms =>
      have hall := account_admitAll (g := g.readClock.2) h g.readClock.1 ms
      exact hall.perm ((BatchOutcome.perm_events_ofAdmissions _).append_left noted)
  | buffer action =>
      rw [← Nat.zero_add g.buffer.size] at h
      have hbuffer := Buffer.account_step h action
      rwa [Nat.zero_add] at hbuffer
  | outlet action =>
      simp only [events, List.append_nil]
      cases action <;> exact h
  | _ =>
      simp only [events, List.append_nil]
      exact h

theorem account_run (h : g.metrics.Account noted g.buffer.size) (actions : List (Action ρ)) :
    (g.run actions).metrics.Account (noted ++ g.along events actions)
      (g.run actions).buffer.size := by
  induction actions generalizing g noted with
  | nil => simpa [run] using h
  | cons action actions ih =>
      have hrest := ih (account_step h action)
      rwa [List.append_assoc] at hrest

/-- For each measurement that is submitted there is one outcome. -/
theorem outcomes_step (g : Gateway ρ) (action : Action ρ) :
    Event.outcomes (g.events action) = action.submitted.length := by
  cases action with
  | cache op => exact op.outcomes_events _
  | sweep => exact Event.outcomes_replicate rfl _
  | reloadAll =>
      unfold events
      split <;> first | rfl | contradiction
  | submit m => exact Admission.outcomes_event _
  | submitDocument payload => exact Admission.outcomes_event _
  | submitBatch ms =>
      have hlength := (handsBack_admitAll g.readClock.2 g.readClock.1 ms).length_eq
      have hperm := BatchOutcome.perm_events_ofAdmissions
        (g.readClock.2.admitAll g.readClock.1 ms).1
      rw [Action.submitted, List.length_map, hlength, ← Admission.outcomes_events,
        Event.outcomes_perm hperm]
      rfl
  | buffer action => exact action.outcomes_events _
  | _ => rfl

theorem outcomes_run (g : Gateway ρ) (actions : List (Action ρ)) :
    Event.outcomes (g.along events actions) = (actions.flatMap Action.submitted).length := by
  induction actions generalizing g with
  | nil => rfl
  | cons action actions ih =>
      rw [along_cons, Event.outcomes_append, outcomes_step, ih, List.flatMap_cons,
        List.length_append]

/-- After any run from zero, the metrics are an account of the answers, those of a gateway
as well as those of a pool of buffers. Of a gateway, the outcomes among the events are as many
as the measurements submitted. -/
theorem metrics_account :
    (∀ (g : Gateway ρ) (capacity : Nat) (actions : List (Action ρ)),
      let first := { g with metrics := {}, buffer := { capacity := capacity } }
      let last := first.run actions
      let noted := first.along events actions
      last.metrics.Account noted last.buffer.size ∧
        Event.outcomes noted = (actions.flatMap Action.submitted).length) ∧
    ∀ (o : Outlet) (capacities : List Nat) (actions : List Pool.Action),
      let first : Pool := { o with
        metrics := {}
        buffers := capacities.map fun capacity => { capacity := capacity } }
      let last := first.run actions
      last.metrics.Account (first.along Pool.events actions) (Pool.waiting last.buffers) := by
  refine ⟨?_, ?_⟩
  · intro g capacity actions first last noted
    have hfirst : first.metrics.Account [] first.buffer.size := .zero
    exact ⟨account_run hfirst actions, outcomes_run first actions⟩
  · intro o capacities actions first last
    have hfirst : first.metrics.Account [] (Pool.waiting first.buffers) := by
      rw [Pool.waiting_new]
      exact .zero
    exact Pool.account_run hfirst actions

end Runs

end Gateway

end SensorGateway
