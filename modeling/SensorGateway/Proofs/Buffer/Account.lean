import SensorGateway.Proofs.Buffer.Contents

/-!
The metrics as an account of what was answered. The events of an action are read off its
answer and not off the state. `Metrics.Account` says that the metrics show how often each
event happened and how many payloads wait in buffers. Whatever is done with a buffer, the
account stays true.
-/

namespace SensorGateway

inductive Event where
  | admitted
  | rejected
  | deferred
  /-- A measurement was handed back for want of room. -/
  | overflowed
  /-- A payload that was pushed by itself was handed back for want of room. -/
  | refused
  | published
  | failed
  | evicted
  | reloaded
  deriving DecidableEq, Repr

namespace Metrics

/-- The metrics show the events so far, and how many payloads wait. -/
structure Account (m : Metrics) (events : List Event) (waiting : Nat) : Prop where
  admitted : m.admitted = events.count .admitted
  rejected : m.rejected = events.count .rejected
  deferred : m.deferred = events.count .deferred
  overflows : m.overflows = events.count .overflowed + events.count .refused
  pending : m.pending = waiting
  batches : m.batches = events.count .published
  failures : m.failures = events.count .failed
  publishCalls : m.publishCalls = m.batches + m.failures
  evicted : m.evicted = events.count .evicted
  reloads : m.reloads = events.count .reloaded

def note (m : Metrics) : Event → Metrics
  | .admitted => { m with admitted := m.admitted + 1 }
  | .rejected => { m with rejected := m.rejected + 1 }
  | .deferred => { m with deferred := m.deferred + 1 }
  | .overflowed | .refused => { m with overflows := m.overflows + 1 }
  | .published =>
    { m with batches := m.batches + 1, publishCalls := m.publishCalls + 1 }
  | .failed =>
    { m with failures := m.failures + 1, publishCalls := m.publishCalls + 1 }
  | .evicted => { m with evicted := m.evicted + 1 }
  | .reloaded => { m with reloads := m.reloads + 1 }

variable {m : Metrics} {events events' : List Event} {waiting : Nat}

theorem Account.zero : Account {} [] 0 :=
  ⟨rfl, rfl, rfl, rfl, rfl, rfl, rfl, rfl, rfl, rfl⟩

theorem Account.setPending (h : m.Account events waiting) {pending waiting' : Nat}
    (hpending : pending = waiting') :
    Account { m with pending := pending } events waiting' :=
  { h with pending := hpending }

theorem Account.setSensors (h : m.Account events waiting) (sensors : Nat) :
    Account { m with cachedSensors := sensors } events waiting :=
  { h with }

theorem Account.note (h : m.Account events waiting) (e : Event) :
    (m.note e).Account (events ++ [e]) waiting := by
  obtain ⟨hadmitted, hrejected, hdeferred, hoverflows, hpending, hbatches, hfailures, hcalls,
    hevicted, hreloads⟩ := h
  cases e <;> constructor <;> simp [Metrics.note, *] <;> omega

theorem Account.perm (h : m.Account events waiting) (hperm : events.Perm events') :
    m.Account events' waiting := by
  obtain ⟨hadmitted, hrejected, hdeferred, hoverflows, hpending, hbatches, hfailures, hcalls,
    hevicted, hreloads⟩ := h
  simp only [hperm.count_eq] at *
  exact ⟨hadmitted, hrejected, hdeferred, hoverflows, hpending, hbatches, hfailures, hcalls,
    hevicted, hreloads⟩

theorem Account.evict (h : m.Account events waiting) (n : Nat) :
    Account { m with evicted := m.evicted + n } (events ++ List.replicate n .evicted)
      waiting := by
  obtain ⟨hadmitted, hrejected, hdeferred, hoverflows, hpending, hbatches, hfailures, hcalls,
    hevicted, hreloads⟩ := h
  constructor <;> simp [List.count_replicate, *]

end Metrics

namespace Buffer

def Action.events : Action → Reply → List Event
  | .push _, .pushed (.error (.full ..)) => [.refused]
  | .pushAll payloads, .taken n => List.replicate (payloads.length - n) .refused
  | .process, .processed (.ok n) => if n = 0 then [] else [.published]
  | .process, .processed (.error (.publishFailed ..)) => [.failed]
  | _, _ => []

-- Other buffers may be filled besides: `others` is the number of payloads that wait there.
variable {m : Metrics} {events : List Event} {others : Nat} {b : Buffer}

theorem account_push_of_lt (h : m.Account events (others + b.size)) (payload : String) :
    Metrics.Account { m with pending := m.pending + 1 } events
      (others + size { b with pending := b.pending.push payload }) := by
  apply h.setPending
  rw [h.pending, size, size, Array.size_push, Nat.add_assoc]

theorem account_drain (h : m.Account events (others + b.size)) :
    Metrics.Account { m with pending := m.pending - b.size } events others := by
  apply h.setPending
  rw [h.pending, Nat.add_sub_cancel]

theorem account_pushAll (h : m.Account events (others + b.size)) (payloads : List String) :
    (b.pushAll m payloads).2.2.Account
      (events ++ List.replicate (payloads.length - (b.pushAll m payloads).1) .refused)
      (others + (b.pushAll m payloads).2.1.size) := by
  induction payloads generalizing b m events with
  | nil => simpa [pushAll] using h
  | cons payload payloads ih =>
      rcases Nat.lt_or_ge b.size b.capacity with hroom | hfull
      · have hrest := ih (account_push_of_lt h payload)
        rw [pushAll_cons_of_lt hroom]
        simpa using hrest
      · have hrest := ih (h.note .refused)
        rw [pushAll_cons_of_le hfull]
        -- the refused payload comes first, and none of the others is taken for it
        have htaken := (pushAll_spec b (m.note .refused) payloads).1
        have hlength : (payload :: payloads).length - (b.pushAll (m.note .refused) payloads).1 =
            payloads.length - (b.pushAll (m.note .refused) payloads).1 + 1 := by
          rw [List.length_cons]
          omega
        rw [List.append_assoc, List.singleton_append, ← List.replicate_succ, ← hlength] at hrest
        exact hrest

theorem account_process {o : Outlet} (h : o.metrics.Account events (others + b.size)) :
    (b.process o).2.2.metrics.Account
      (events ++ Action.process.events (.processed (b.process o).1))
      (others + (b.process o).2.1.size) := by
  by_cases hempty : b.contents = []
  · rw [process_of_nil hempty]
    simpa [Action.events] using h
  · have hlength : b.contents.length ≠ 0 := fun h0 => hempty (List.length_eq_zero_iff.1 h0)
    have hdrained := account_drain h
    rw [process, drain_eq]
    simp only [if_neg hempty, Outlet.publish]
    obtain ⟨answer, publisher, clock⟩ := o.publisher.publish o.clock b.contents
    cases answer with
    | error source => exact hdrained.note .failed
    | ok receivers =>
        simp only [Action.events, if_neg hlength]
        exact hdrained.note .published

/-- Whatever is done with a buffer, the metrics stay an account of the answers. -/
theorem account_step {o : Outlet} (h : o.metrics.Account events (others + b.size))
    (action : Action) :
    (b.step o action).2.2.metrics.Account (events ++ action.events (b.step o action).1)
      (others + (b.step o action).2.1.size) := by
  cases action with
  | push payload =>
      simp only [step]
      rcases Nat.lt_or_ge b.size b.capacity with hroom | hfull
      · rw [push_of_lt hroom]
        simpa [Action.events] using account_push_of_lt h payload
      · rw [push_of_le hfull]
        exact h.note .refused
  | pushAll payloads => exact account_pushAll h payloads
  | process => exact account_process h
  | drain =>
      simpa [Action.events, step, drain_eq, size] using account_drain h

end Buffer

end SensorGateway
