import Mathlib.Data.List.Forall2
import SensorGateway.Proofs.Buffer.Contents
import SensorGateway.Proofs.Gateway.Steps

/-!
The way of payloads through a gateway. Along a run it is noted which payloads the buffer
accepts and which batches leave it. `payloads_conserved` says that nothing is lost, doubled
or put out of order, whatever the publisher answers.
-/

namespace SensorGateway

namespace Measurement

theorem payload_of_ofDocument {payload : String} {m : Measurement}
    (h : ofDocument payload = .ok m) : m.payload = payload := by
  unfold ofDocument at h
  split at h
  · cases h
  · split at h
    · cases h
    · split at h
      · cases h
      · cases h
        rfl

end Measurement

namespace Admission

/-- A measurement that is handed back is the one that was submitted. -/
def HandsBack (m : Measurement) : Admission → Prop
  | .deferred m' => m' = m
  | .overflow m' => m' = m
  | _ => True

def admittedOf (payloads : List String) (outcomes : List Admission) : List String :=
  ((payloads.zip outcomes).filter fun x => x.2 = .admitted).map Prod.fst

theorem admittedOf_cons (payload : String) (payloads : List String) (outcome : Admission)
    (outcomes : List Admission) :
    admittedOf (payload :: payloads) (outcome :: outcomes) =
      admittedOf [payload] [outcome] ++ admittedOf payloads outcomes := by
  simp only [admittedOf, List.zip_cons_cons, List.zip_nil_right, List.filter_cons,
    List.filter_nil]
  split <;> rfl

end Admission

namespace Gateway

open Admission (admittedOf admittedOf_cons)
open Buffer (Exchange)

variable {ρ : Type}

/-! ### Measurements -/

theorem exchange_admitOne (g : Gateway ρ) (tp : Nat) (m : Measurement) :
    Exchange g.buffer (g.admitOne tp m).2.buffer
      (admittedOf [m.payload] [(g.admitOne tp m).1]) [] := by
  rcases admitOne_cases g tp m with ⟨-, h⟩ | ⟨-, h⟩ | ⟨-, hroom, h⟩ | ⟨-, -, h⟩
  · rw [h]
    exact .refl g.buffer
  · rw [h]
    exact .refl g.buffer
  · rw [h]
    exact Buffer.exchange_push hroom m.payload
  · rw [h]
    exact .refl g.buffer

theorem exchange_admitAll (g : Gateway ρ) (tp : Nat) (ms : List Measurement) :
    Exchange g.buffer (g.admitAll tp ms).2.buffer
      (admittedOf (ms.map Measurement.payload) (g.admitAll tp ms).1) [] := by
  induction ms generalizing g with
  | nil => exact .refl g.buffer
  | cons m ms ih =>
      have h := (exchange_admitOne g tp m).trans (ih (g.admitOne tp m).2)
      rwa [← admittedOf_cons] at h

theorem handsBack_admitOne (g : Gateway ρ) (tp : Nat) (m : Measurement) :
    (g.admitOne tp m).1.HandsBack m := by
  rcases admitOne_cases g tp m with ⟨-, h⟩ | ⟨-, h⟩ | ⟨-, -, h⟩ | ⟨-, -, h⟩
  · rw [h]
    trivial
  · rw [h]
    rfl
  · rw [h]
    trivial
  · rw [h]
    rfl

/-- A measurement that is not admitted leaves the buffer as it was. -/
theorem buffer_admitOne (g : Gateway ρ) (tp : Nat) (m : Measurement) :
    (g.admitOne tp m).1 = .admitted ∨ (g.admitOne tp m).2.buffer = g.buffer := by
  rcases admitOne_cases g tp m with ⟨-, h⟩ | ⟨-, h⟩ | ⟨-, -, h⟩ | ⟨-, -, h⟩
  · exact .inr (by rw [h])
  · exact .inr (by rw [h])
  · exact .inl (by rw [h])
  · exact .inr (by rw [h])

theorem handsBack_admitAll (g : Gateway ρ) (tp : Nat) (ms : List Measurement) :
    List.Forall₂ Admission.HandsBack ms (g.admitAll tp ms).1 := by
  induction ms generalizing g with
  | nil => exact .nil
  | cons m ms ih => exact .cons (handsBack_admitOne g tp m) (ih _)

/-- A document without a sensor is rejected, any other one is submitted as the measurement
it is. -/
theorem submitDocument_cases (g : Gateway ρ) (payload : String) :
    (∃ m, Measurement.ofDocument payload = .ok m ∧ g.submitDocument payload = g.submit m) ∨
      (∃ e, Measurement.ofDocument payload = .error e ∧ g.submitDocument payload =
        (.rejected, { g with
          metrics := { g.metrics with rejected := g.metrics.rejected + 1 } })) := by
  unfold submitDocument
  cases Measurement.ofDocument payload with
  | ok m => exact .inl ⟨m, rfl, rfl⟩
  | error e => exact .inr ⟨e, rfl, rfl⟩

/-! ### Actions -/

variable [Directory ρ]

def Action.submitted : Action ρ → List String
  | .submit m => [m.payload]
  | .submitDocument payload => [payload]
  | .submitBatch ms => ms.map Measurement.payload
  | _ => []

/-- What becomes of the payloads submitted with an action, one outcome for each. -/
def outcomes (g : Gateway ρ) : Action ρ → List Admission
  | .submit m => [(g.submit m).1]
  | .submitDocument payload => [(g.submitDocument payload).1]
  | .submitBatch ms => (g.readClock.2.admitAll g.readClock.1 ms).1
  | _ => []

def accepted (g : Gateway ρ) (action : Action ρ) : List String :=
  match action with
  | .buffer action => action.accepted (g.onBuffer action).1
  | action => admittedOf action.submitted (g.outcomes action)

def drained (g : Gateway ρ) : Action ρ → List (List String)
  | .buffer action => g.buffer.drained action (g.onBuffer action).1
  | _ => []

theorem exchange_step (g : Gateway ρ) (action : Action ρ) :
    Exchange g.buffer (g.step action).2.buffer (g.accepted action) (g.drained action) := by
  cases action with
  | cache op => exact .of_eq (buffer_perform g op)
  | reloadAll => exact .of_eq (reloaded_reloadAll g).buffer
  | reloadSensors ids => exact .of_eq (reloaded_reloadSensors g ids).buffer
  | reloadSensor id => exact .of_eq (reloaded_reloadSensor g id).buffer
  | sweep => exact .of_eq (buffer_sweep g)
  | submit m => exact exchange_admitOne g.readClock.2 g.readClock.1 m
  | submitDocument payload =>
      rcases submitDocument_cases g payload with ⟨m, hm, h⟩ | ⟨e, -, h⟩
      · -- A document is passed on as it came, so its payload is the text submitted.
        obtain rfl := Measurement.payload_of_ofDocument hm
        simp only [step, accepted, outcomes, Action.submitted, h]
        exact exchange_admitOne g.readClock.2 g.readClock.1 m
      · simp only [step, accepted, outcomes, Action.submitted, h]
        exact .refl g.buffer
  | submitBatch ms => exact exchange_admitAll g.readClock.2 g.readClock.1 ms
  | buffer action => exact Buffer.exchange_step g.buffer g.toOutlet action
  | _ => exact .refl g.buffer

theorem exchange_run (g : Gateway ρ) (actions : List (Action ρ)) :
    Exchange g.buffer (g.run actions).buffer (g.along accepted actions)
      (g.along drained actions) := by
  induction actions generalizing g with
  | nil => exact .refl g.buffer
  | cons action actions ih => exact (exchange_step g action).trans (ih (g.step action).2)

/-- To process an empty buffer does nothing. Any other one is offered to the publisher as
one batch of all its payloads; the answer is the length of the batch or hands the batch
back, and the buffer is left empty. -/
def ProcessesWhole (g : Gateway ρ) : Prop :=
  if g.buffer.contents = [] then g.onBuffer .process = (.processed (.ok 0), g)
  else
    let batch := g.buffer.contents
    let (answer, publisher, clock) := g.publisher.publish g.clock batch
    (g.onBuffer .process).1 = .processed (Buffer.answerFor batch answer) ∧
      (g.onBuffer .process).2.publisher = publisher ∧
      (g.onBuffer .process).2.clock = clock ∧
      (g.onBuffer .process).2.buffer = { capacity := g.buffer.capacity }

omit [Directory ρ] in
theorem processesWhole (g : Gateway ρ) : g.ProcessesWhole := by
  unfold ProcessesWhole
  split
  · rename_i h
    rw [onBuffer, Buffer.step, Buffer.process_of_nil h]
  · rename_i h
    obtain ⟨hanswer, hb, hpublisher, hclock⟩ := Buffer.process_of_ne_nil h g.toOutlet
    exact ⟨congrArg Buffer.Reply.processed hanswer, hpublisher, hclock, hb⟩

/-- A payload is refused only if the buffer is full; what is refused is handed back as it
came and is not stored. -/
structure HandsBackRefused (g : Gateway ρ) : Prop where
  push : ∀ payload,
    if g.buffer.size < g.buffer.capacity then
      (g.onBuffer (.push payload)).1 = .pushed (.ok ())
    else
      (g.onBuffer (.push payload)).1 = .pushed (.error (.full g.buffer.capacity payload)) ∧
        (g.onBuffer (.push payload)).2.buffer = g.buffer
  submit : ∀ m, (g.submit m).1.HandsBack m ∧
    ((g.submit m).1 = .admitted ∨ (g.submit m).2.buffer = g.buffer)
  submitDocument : ∀ payload,
    (∀ m, Measurement.ofDocument payload = .ok m →
      m.payload = payload ∧ (g.submitDocument payload).1.HandsBack m) ∧
    ((g.submitDocument payload).1 = .admitted ∨
      (g.submitDocument payload).2.buffer = g.buffer)
  submitBatch : ∀ ms, (g.submitBatch ms).1 = .ofAdmissions (g.outcomes (.submitBatch ms)) ∧
    List.Forall₂ Admission.HandsBack ms (g.outcomes (.submitBatch ms)) ∧
    (g.submitBatch ms).2.buffer.contents = g.buffer.contents ++
      admittedOf (ms.map Measurement.payload) (g.outcomes (.submitBatch ms))

omit [Directory ρ] in
theorem handsBackRefused (g : Gateway ρ) : g.HandsBackRefused where
  push payload := by
    split
    · rename_i h
      simp only [onBuffer, Buffer.step, Buffer.push_of_lt h]
    · rename_i h
      simp only [onBuffer, Buffer.step, Buffer.push_of_le (Nat.not_lt.1 h), and_self]
  submit m := ⟨handsBack_admitOne .., buffer_admitOne ..⟩
  submitDocument payload := by
    rcases submitDocument_cases g payload with ⟨m, hm, h⟩ | ⟨e, he, h⟩
    · rw [h]
      refine ⟨?_, buffer_admitOne ..⟩
      intro m' hm'
      obtain rfl : m = m' := Except.ok.inj (hm.symm.trans hm')
      exact ⟨Measurement.payload_of_ofDocument hm, handsBack_admitOne ..⟩
    · rw [h]
      refine ⟨?_, .inr rfl⟩
      intro m hm
      cases he.symm.trans hm
  submitBatch ms :=
    ⟨rfl, handsBack_admitAll g.readClock.2 g.readClock.1 ms,
      (exchange_admitAll g.readClock.2 g.readClock.1 ms).contents.symm⟩

/-- Of a gateway with a new buffer, after any actions: the payloads accepted so far are, in
this order, those of the batches that left and those still held; the buffer is within its
capacity; it is processed as a whole, and what it refuses is handed back. -/
theorem payloads_conserved (g : Gateway ρ) (capacity : Nat) (actions : List (Action ρ)) :
    let first := { g with buffer := { capacity := capacity } }
    let last := first.run actions
    first.along accepted actions =
        (first.along drained actions).flatten ++ last.buffer.contents ∧
      last.buffer.capacity = capacity ∧ last.buffer.size ≤ capacity ∧
      last.ProcessesWhole ∧ last.HandsBackRefused := by
  intro first last
  have h : Exchange first.buffer last.buffer (first.along accepted actions)
      (first.along drained actions) := exchange_run first actions
  have hcapacity : last.buffer.capacity = capacity := h.capacity
  have hsize : last.buffer.size ≤ last.buffer.capacity := h.fits (Nat.zero_le _)
  rw [hcapacity] at hsize
  exact ⟨h.contents, hcapacity, hsize, processesWhole last, handsBackRefused last⟩

end Gateway

end SensorGateway
