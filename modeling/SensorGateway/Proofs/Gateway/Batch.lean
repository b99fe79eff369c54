import SensorGateway.Proofs.Gateway.Submission

/-!
Batches are decided in one pass. The clock is read once, and from then on each measurement
meets the decision that the records held give at this instant; the buffer fills up on the
way. `submitBatch_in_one_pass` says how a batch is split by this, and that it ends as if its
measurements had been submitted one by one with the clock standing still.
-/

namespace SensorGateway

/-- The decision about the sensor that an outcome shows. -/
def Admission.status : Admission → SensorStatus
  | .admitted => .available
  | .rejected => .unavailable
  | .deferred _ => .unknown
  | .overflow _ => .available

def Clock.stopped (clock : Clock) : Clock :=
  { clock with tick := 0, steps := [] }

theorem Clock.afterReading_stopped (clock : Clock) :
    clock.stopped.afterReading = clock.stopped := by
  simp [afterReading, stopped]

namespace BatchOutcome

/-- An outcome for several measurements together with that for one before them. -/
def recordFirst (o : BatchOutcome) : Admission → BatchOutcome
  | .admitted => { o with admitted := o.admitted + 1 }
  | .rejected => { o with rejected := o.rejected + 1 }
  | .deferred m => { o with deferred := m :: o.deferred }
  | .overflow m => { o with overflowed := m :: o.overflowed }

theorem ofAdmissions_cons (outcome : Admission) (outcomes : List Admission) :
    ofAdmissions (outcome :: outcomes) = (ofAdmissions outcomes).recordFirst outcome := by
  cases outcome <;>
    simp [ofAdmissions, recordFirst, List.filterMap_cons, Admission.deferred?,
      Admission.overflow?]

theorem total_recordFirst (o : BatchOutcome) (outcome : Admission) :
    (o.recordFirst outcome).total = o.total + 1 := by
  cases outcome <;> simp only [recordFirst, total, List.length_cons] <;> omega

/-- Every outcome is counted once. -/
theorem total_ofAdmissions (outcomes : List Admission) :
    (ofAdmissions outcomes).total = outcomes.length := by
  induction outcomes with
  | nil => rfl
  | cons outcome outcomes ih =>
      rw [ofAdmissions_cons, total_recordFirst, ih, List.length_cons]

end BatchOutcome

namespace Gateway

variable {ρ : Type}

/-! ### How a batch is split -/

/-- The measurements of a batch about whose sensors there is a certain decision at an
instant. -/
def withStatus (g : Gateway ρ) (status : SensorStatus) (tp : Nat) (ms : List Measurement) :
    List Measurement :=
  ms.filter fun m => g.cache.statusAt m.sensorId tp = status

/-- A batch split by the decisions about its sensors. Of the available measurements the
buffer takes as many as it has room for, and the rest is handed back. -/
def split (g : Gateway ρ) (tp : Nat) (ms : List Measurement) : BatchOutcome where
  admitted := min (g.withStatus .available tp ms).length g.buffer.room
  rejected := (g.withStatus .unavailable tp ms).length
  deferred := g.withStatus .unknown tp ms
  overflowed := (g.withStatus .available tp ms).drop g.buffer.room

/-- The first measurement of a batch gets its own outcome, and what is left is split in the
same way, with less room if the first one was admitted. -/
theorem split_cons (g : Gateway ρ) (tp : Nat) (m : Measurement) (ms : List Measurement) :
    g.split tp (m :: ms) =
      ((g.admitOne tp m).2.split tp ms).recordFirst (g.admitOne tp m).1 := by
  rcases admitOne_cases g tp m with ⟨hs, h⟩ | ⟨hs, h⟩ | ⟨hs, hroom, h⟩ | ⟨hs, hfull, h⟩
  · simp [h, split, withStatus, hs, BatchOutcome.recordFirst]
  · simp [h, split, withStatus, hs, BatchOutcome.recordFirst]
  · simp [h, split, withStatus, hs, BatchOutcome.recordFirst, Buffer.room_push hroom m.payload]
  · simp [h, split, withStatus, hs, BatchOutcome.recordFirst, Buffer.room_of_le hfull]

theorem ofAdmissions_admitAll (g : Gateway ρ) (tp : Nat) (ms : List Measurement) :
    .ofAdmissions (g.admitAll tp ms).1 = g.split tp ms := by
  induction ms generalizing g with
  | nil => simp [admitAll, split, withStatus, BatchOutcome.ofAdmissions]
  | cons m ms ih =>
      rw [split_cons, ← ih]
      exact BatchOutcome.ofAdmissions_cons _ _

theorem status_admitOne (g : Gateway ρ) (tp : Nat) (m : Measurement) :
    (g.admitOne tp m).1.status = g.cache.statusAt m.sensorId tp := by
  rcases admitOne_cases g tp m with ⟨hs, h⟩ | ⟨hs, h⟩ | ⟨hs, -, h⟩ | ⟨hs, -, h⟩
  all_goals rw [h, hs]; rfl

/-- The decisions of a batch are those of the records held at its start. -/
theorem map_status_admitAll (g : Gateway ρ) (tp : Nat) (ms : List Measurement) :
    (g.admitAll tp ms).1.map Admission.status =
      ms.map fun m => g.cache.statusAt m.sensorId tp := by
  induction ms generalizing g with
  | nil => rfl
  | cons m ms ih =>
      have hrest := ih (g.admitOne tp m).2
      rw [cache_admitOne] at hrest
      exact congrArg₂ List.cons (status_admitOne g tp m) hrest

/-! ### One by one -/

def standing (g : Gateway ρ) : Gateway ρ :=
  { g with clock := g.clock.stopped }

theorem clock_admitOne (g : Gateway ρ) (tp : Nat) (m : Measurement) :
    (g.admitOne tp m).2.clock = g.clock := by
  obtain ⟨buffer, metrics, h⟩ := admitOne_snd g tp m
  rw [h]

theorem clock_admitAll (g : Gateway ρ) (tp : Nat) (ms : List Measurement) :
    (g.admitAll tp ms).2.clock = g.clock := by
  obtain ⟨buffer, metrics, h⟩ := admitAll_snd g tp ms
  rw [h]

/-- To admit a measurement as of an instant is not to look at the clock. -/
theorem admitOne_setClock (g : Gateway ρ) (clock : Clock) (tp : Nat) (m : Measurement) :
    admitOne { g with clock := clock } tp m =
      ((g.admitOne tp m).1, { (g.admitOne tp m).2 with clock := clock }) := by
  unfold admitOne
  cases g.cache.statusAt m.sensorId tp with
  | unavailable => rfl
  | unknown => rfl
  | available =>
      simp only [Buffer.push]
      split <;> rfl

theorem admitAll_setClock (g : Gateway ρ) (clock : Clock) (tp : Nat) (ms : List Measurement) :
    admitAll { g with clock := clock } tp ms =
      ((g.admitAll tp ms).1, { (g.admitAll tp ms).2 with clock := clock }) := by
  induction ms generalizing g with
  | nil => rfl
  | cons m ms ih => simp only [admitAll, admitOne_setClock, ih]

theorem submit_of_afterReading_eq {g : Gateway ρ} (h : g.clock.afterReading = g.clock)
    (m : Measurement) : g.submit m = g.admitOne g.clock.now m := by
  rw [submit, readClock, h]

section Runs

variable [Directory ρ]

/-- As long as the clock stands still, measurements submitted one by one are all admitted as
of one instant. -/
theorem run_submit_of_afterReading_eq {g : Gateway ρ} (h : g.clock.afterReading = g.clock)
    (ms : List Measurement) :
    (g.along outcomes (ms.map .submit), g.run (ms.map .submit)) = g.admitAll g.clock.now ms := by
  induction ms generalizing g with
  | nil => rfl
  | cons m ms ih =>
      have hfirst := submit_of_afterReading_eq h m
      have hclock := clock_admitOne g g.clock.now m
      have hrest := ih (g := (g.admitOne g.clock.now m).2) (by rw [hclock, h])
      rw [hclock] at hrest
      simp only [admitAll]
      rw [← hrest, ← hfirst]
      rfl

/-- What the submission of a batch does. The clock is read once, and all decisions are those
of the records held at that instant. The buffer takes the first available measurements; the
others are handed back in their order, and so are those of unknown sensors. -/
structure OnePass (g : Gateway ρ) (ms : List Measurement) (outcome : BatchOutcome)
    (g' : Gateway ρ) : Prop where
  clock : g'.clock = g.clock.afterReading
  cache : g'.cache = g.cache
  capacity : g'.buffer.capacity = g.buffer.capacity
  admitted : outcome.admitted =
    min (g.withStatus .available g.clock.now ms).length (g.buffer.capacity - g.buffer.size)
  contents : g'.buffer.contents = g.buffer.contents ++
    ((g.withStatus .available g.clock.now ms).take outcome.admitted).map Measurement.payload
  overflowed : outcome.overflowed =
    (g.withStatus .available g.clock.now ms).drop outcome.admitted
  deferred : outcome.deferred = g.withStatus .unknown g.clock.now ms
  rejected : outcome.rejected = (g.withStatus .unavailable g.clock.now ms).length
  total : outcome.total = ms.length

omit [Directory ρ] in
theorem onePass_submitBatch (g : Gateway ρ) (ms : List Measurement) :
    g.OnePass ms (g.submitBatch ms).1 (g.submitBatch ms).2 := by
  have hsplit : (g.submitBatch ms).1 = g.split g.clock.now ms :=
    ofAdmissions_admitAll g.readClock.2 g.clock.now ms
  have hcontents : (g.submitBatch ms).2.buffer.contents = g.buffer.contents ++
      ((g.withStatus .available g.clock.now ms).take g.buffer.room).map Measurement.payload :=
    contents_admitAll g.readClock.2 g.clock.now ms
  have hlength := congrArg List.length (map_status_admitAll g.readClock.2 g.clock.now ms)
  rw [List.length_map, List.length_map] at hlength
  constructor
  · exact clock_admitAll g.readClock.2 g.clock.now ms
  · exact cache_submitBatch g ms
  · exact (exchange_admitAll g.readClock.2 g.clock.now ms).capacity
  · rw [hsplit]
    rfl
  · rw [hsplit, hcontents, split, Nat.min_comm, ← List.take_eq_take_min]
  · rw [hsplit]
    simp only [split]
    exact List.drop_eq_drop_iff.2 (by omega)
  · rw [hsplit]
    rfl
  · rw [hsplit]
    rfl
  · exact (BatchOutcome.total_ofAdmissions _).trans hlength

/-- A batch is one pass over its measurements, and outcome and final state are those of
submitting the measurements one by one while the clock stands still. So measurements of one
sensor meet one decision. -/
theorem submitBatch_in_one_pass (g : Gateway ρ) (ms : List Measurement) :
    let single := g.standing.along outcomes (ms.map .submit)
    g.OnePass ms (g.submitBatch ms).1 (g.submitBatch ms).2 ∧
      g.submitBatch ms = (.ofAdmissions single,
        { g.standing.run (ms.map .submit) with clock := g.clock.afterReading }) ∧
      single.map Admission.status = ms.map (fun m => g.cache.statusAt m.sensorId g.clock.now) ∧
      ∀ i j : Nat, ms[i]?.map Measurement.sensorId = ms[j]?.map Measurement.sensorId →
        single[i]?.map Admission.status = single[j]?.map Admission.status := by
  intro single
  have hrun : (single, g.standing.run (ms.map .submit)) = g.standing.admitAll g.clock.now ms :=
    run_submit_of_afterReading_eq g.clock.afterReading_stopped ms
  -- once its instant is read, the pass does not look at the clock any more
  have hstanding : g.standing.admitAll g.clock.now ms =
      ((g.admitAll g.clock.now ms).1,
        { (g.admitAll g.clock.now ms).2 with clock := g.standing.clock }) :=
    admitAll_setClock g _ g.clock.now ms
  rw [hstanding] at hrun
  obtain ⟨hsingle, hlast⟩ := Prod.mk.inj hrun
  have hstatus : single.map Admission.status =
      ms.map fun m => g.cache.statusAt m.sensorId g.clock.now := by
    rw [hsingle, map_status_admitAll]
  refine ⟨onePass_submitBatch g ms, ?_, hstatus, ?_⟩
  · have hbatch : g.readClock.2.admitAll g.clock.now ms =
        ((g.admitAll g.clock.now ms).1,
          { (g.admitAll g.clock.now ms).2 with clock := g.clock.afterReading }) :=
      admitAll_setClock g _ g.clock.now ms
    rw [hsingle, hlast]
    exact congrArg (fun x => (BatchOutcome.ofAdmissions x.1, x.2)) hbatch
  · intro i j hsame
    rw [← List.getElem?_map, ← List.getElem?_map, hstatus, List.getElem?_map, List.getElem?_map]
    have hdecided := congrArg (Option.map (g.cache.statusAt · g.clock.now)) hsame
    rwa [Option.map_map, Option.map_map] at hdecided

end Runs

end Gateway

end SensorGateway
