import SensorGateway.Proofs.Gateway.Payloads
import SensorGateway.Proofs.Reload.Merge

/-!
When the next full reload and the next sweep are due. Only two actions move the schedule: a
full reload that succeeds and a sweep. Each of them makes its last reading of the clock for
the schedule, so after any run the schedule is told by the last of these readings.
-/

namespace SensorGateway

/-- The instant that is due an interval after the last of some readings. Without any reading
it is the given one. -/
def dueFrom (interval : Span) (first : Nat) (readings : List Nat) : Nat :=
  match readings.getLast? with
  | some reading => min (reading + interval.millis) maxWord
  | none => first

theorem dueFrom_append (interval : Span) (first : Nat) (readings readings' : List Nat) :
    dueFrom interval first (readings ++ readings') =
      dueFrom interval (dueFrom interval first readings) readings' := by
  unfold dueFrom
  rw [List.getLast?_append]
  cases readings'.getLast? <;> rfl

namespace Gateway

variable {ρ : Type}

/-- What decides when reloads and sweeps are due. -/
def timing (g : Gateway ρ) : ReloadSettings × Schedule :=
  (g.settings, g.schedule)

theorem timing_performAll (g : Gateway ρ) (ops : List CacheOp) :
    (g.performAll ops).timing = g.timing := by
  obtain ⟨metrics, h⟩ := performAll_eq g ops
  rw [h]
  rfl

theorem timing_admitOne (g : Gateway ρ) (tp : Nat) (m : Measurement) :
    (g.admitOne tp m).2.timing = g.timing := by
  obtain ⟨buffer, metrics, h⟩ := admitOne_snd g tp m
  rw [h]
  rfl

theorem timing_admitAll (g : Gateway ρ) (tp : Nat) (ms : List Measurement) :
    (g.admitAll tp ms).2.timing = g.timing := by
  obtain ⟨buffer, metrics, h⟩ := admitAll_snd g tp ms
  rw [h]
  rfl

theorem timing_submitDocument (g : Gateway ρ) (payload : String) :
    (g.submitDocument payload).2.timing = g.timing := by
  rcases submitDocument_cases g payload with ⟨m, -, h⟩ | ⟨e, -, h⟩
  · rw [h]
    exact timing_admitOne g.readClock.2 g.clock.now m
  · rw [h]
    rfl

variable [Directory ρ]

theorem timing_reloadSensors (g : Gateway ρ) (ids : List ObjectId) :
    (g.reloadSensors ids).2.timing = g.timing := by
  obtain ⟨r, ops, -, h⟩ := exists_reloadSensors g ids
  rw [h]
  exact timing_performAll { g with repositories := r } ops

theorem timing_reloadSensor (g : Gateway ρ) (id : ObjectId) :
    (g.reloadSensor id).2.timing = g.timing := by
  obtain ⟨r, ops, -, h⟩ := exists_reloadSensor g id
  rw [h]
  exact timing_performAll { g with repositories := r } ops

/-- The reading of the clock that a full reload makes for the schedule, after those for the
three kinds of records; only if it succeeds. -/
def reloadReadings (g : Gateway ρ) (action : Action ρ) : List Nat :=
  match action, (g.step action).1 with
  | .reloadAll, .reloaded (.ok _) => [g.clock.afterReadings 3]
  | _, _ => []

omit [Directory ρ] in
/-- The reading of the clock that a sweep makes for the schedule, after the one by which it
drops records. -/
def sweepReadings (g : Gateway ρ) : Action ρ → List Nat
  | .sweep => [g.clock.afterReadings 1]
  | _ => []

theorem reloadReadings_of_ne {g : Gateway ρ} {action : Action ρ} (h : action ≠ .reloadAll) :
    g.reloadReadings action = [] := by
  unfold reloadReadings
  split
  · exact absurd rfl h
  · rfl

omit [Directory ρ] in
theorem sweepReadings_of_ne {g : Gateway ρ} {action : Action ρ} (h : action ≠ .sweep) :
    g.sweepReadings action = [] := by
  unfold sweepReadings
  split
  · exact absurd rfl h
  · rfl

/-- Besides full reloads and sweeps no action touches the schedule. -/
theorem timing_step_of_ne {g : Gateway ρ} {action : Action ρ} (hreload : action ≠ .reloadAll)
    (hsweep : action ≠ .sweep) : (g.step action).2.timing = g.timing := by
  cases action with
  | reloadAll => exact absurd rfl hreload
  | sweep => exact absurd rfl hsweep
  | cache op => exact timing_performAll g [op]
  | reloadSensors ids => exact timing_reloadSensors g ids
  | reloadSensor sensor => exact timing_reloadSensor g sensor
  | submit m => exact timing_admitOne g.readClock.2 g.clock.now m
  | submitDocument payload => exact timing_submitDocument g payload
  | submitBatch ms => exact timing_admitAll g.readClock.2 g.clock.now ms
  | _ => rfl

/-- What an action can do to the schedule: it is a full reload that succeeds, or a sweep, or
it leaves the schedule alone. -/
inductive Reschedules (g : Gateway ρ) (action : Action ρ) : Prop where
  | reload (summary : ReloadSummary) (haction : action = .reloadAll)
      (hreply : (g.step action).1 = .reloaded (.ok summary))
      (htiming : (g.step action).2.timing =
        (g.settings, g.schedule.reloaded g.settings (g.clock.afterReadings 3)))
  | sweep (haction : action = .sweep)
      (htiming : (g.step action).2.timing =
        (g.settings, g.schedule.swept g.settings (g.clock.afterReadings 1)))
  | keep (hreload : g.reloadReadings action = []) (hsweep : action ≠ .sweep)
      (htiming : (g.step action).2.timing = g.timing)

theorem reschedules (g : Gateway ρ) (action : Action ρ) : g.Reschedules action := by
  by_cases hreload : action = .reloadAll
  · subst hreload
    rcases reloadAll_cases g with ⟨e, r, -, h⟩ | ⟨harvest, r, -, h⟩
    · refine .keep ?_ nofun (congrArg (·.2.timing) h)
      simp only [reloadReadings, step, h, Prod.map_fst]
    · -- the reading for the schedule comes after one for each kind of records
      obtain ⟨metrics, hmerged⟩ := performAll_eq { g with repositories := r } harvest.ops
      simp only [hmerged] at h
      refine .reload (harvest.summary 0) rfl ?_ (congrArg (·.2.timing) h)
      exact congrArg (Reply.reloaded ·.1) h
  · by_cases hsweep : action = .sweep
    · subst hsweep
      obtain ⟨metrics, h⟩ := sweep_snd g
      exact .sweep rfl (congrArg timing h)
    · exact .keep (reloadReadings_of_ne hreload) hsweep (timing_step_of_ne hreload hsweep)

theorem settings_step (g : Gateway ρ) (action : Action ρ) :
    (g.step action).2.settings = g.settings := by
  cases g.reschedules action with
  | reload _ _ _ htiming | sweep _ htiming | keep _ _ htiming =>
      exact congrArg Prod.fst htiming

theorem nextReload_step (g : Gateway ρ) (action : Action ρ) :
    (g.step action).2.schedule.nextReload =
      dueFrom g.settings.reloadInterval g.schedule.nextReload (g.reloadReadings action) := by
  cases g.reschedules action with
  | reload summary haction hreply htiming =>
      subst haction
      simp only [reloadReadings, hreply]
      exact congrArg (·.2.nextReload) htiming
  | sweep haction htiming =>
      rw [reloadReadings_of_ne (by simp [haction])]
      exact congrArg (·.2.nextReload) htiming
  | keep hreload _ htiming =>
      rw [hreload]
      exact congrArg (·.2.nextReload) htiming

theorem nextSweep_step (g : Gateway ρ) (action : Action ρ) :
    (g.step action).2.schedule.nextSweep =
      dueFrom g.settings.scanInterval g.schedule.nextSweep (g.sweepReadings action) := by
  cases g.reschedules action with
  | reload summary haction _ htiming =>
      rw [sweepReadings_of_ne (by simp [haction])]
      exact congrArg (·.2.nextSweep) htiming
  | sweep haction htiming =>
      subst haction
      exact congrArg (·.2.nextSweep) htiming
  | keep _ hsweep htiming =>
      rw [sweepReadings_of_ne hsweep]
      exact congrArg (·.2.nextSweep) htiming

/-- What each action does by its own readings, a run does by the readings along it. -/
theorem due_run {due : Schedule → Nat} {interval : ReloadSettings → Span}
    {readings : Gateway ρ → Action ρ → List Nat}
    (hstep : ∀ g action, due (g.step action).2.schedule =
      dueFrom (interval g.settings) (due g.schedule) (readings g action))
    (g : Gateway ρ) (actions : List (Action ρ)) :
    due (g.run actions).schedule =
      dueFrom (interval g.settings) (due g.schedule) (g.along readings actions) := by
  induction actions generalizing g with
  | nil => rfl
  | cons action actions ih =>
      rw [along_cons, dueFrom_append, ← hstep, ← settings_step g action]
      exact ih (g.step action).2

theorem nextReload_run (g : Gateway ρ) (actions : List (Action ρ)) :
    (g.run actions).schedule.nextReload =
      dueFrom g.settings.reloadInterval g.schedule.nextReload
        (g.along reloadReadings actions) :=
  due_run nextReload_step g actions

theorem nextSweep_run (g : Gateway ρ) (actions : List (Action ρ)) :
    (g.run actions).schedule.nextSweep =
      dueFrom g.settings.scanInterval g.schedule.nextSweep (g.along sweepReadings actions) :=
  due_run nextSweep_step g actions

/-- Only a full reload that succeeds moves the next full reload, and only a sweep moves the
next sweep. -/
structure MovedByItsOwn (g : Gateway ρ) : Prop where
  nextReload : ∀ action,
    (g.step action).2.schedule.nextReload ≠ g.schedule.nextReload →
      action = .reloadAll ∧ ∃ summary, (g.step action).1 = .reloaded (.ok summary)
  nextSweep : ∀ action,
    (g.step action).2.schedule.nextSweep ≠ g.schedule.nextSweep → action = .sweep

theorem movedByItsOwn (g : Gateway ρ) : g.MovedByItsOwn where
  nextReload action hmoved := by
    cases g.reschedules action with
    | reload summary haction hreply _ => exact ⟨haction, summary, hreply⟩
    | sweep _ htiming => exact absurd (congrArg (·.2.nextReload) htiming) hmoved
    | keep _ _ htiming => exact absurd (congrArg (·.2.nextReload) htiming) hmoved
  nextSweep action hmoved := by
    cases g.reschedules action with
    | reload _ _ _ htiming => exact absurd (congrArg (·.2.nextSweep) htiming) hmoved
    | sweep haction _ => exact haction
    | keep _ _ htiming => exact absurd (congrArg (·.2.nextSweep) htiming) hmoved

/-- The schedule after any run from the start. What is next due is counted from the reading
that the last full reload that succeeded, or the last sweep, made for it, and from the start
if there was none. It is due from that instant on, and a full reload that is due stays due
until one succeeds. -/
theorem schedule_follows_last_success (o : Outlet) (config : AuthorizationConfig)
    (settings : ReloadSettings) (ingestion : IngestionConfig) (repositories : ρ)
    (actions : List (Action ρ)) :
    let first := Gateway.start o config settings ingestion repositories
    let last := first.run actions
    last.schedule.nextReload = dueFrom settings.reloadInterval
        (min (o.clock.now + settings.startDelay.millis) maxWord)
        (first.along reloadReadings actions) ∧
      last.schedule.nextSweep = dueFrom settings.scanInterval
        (min (o.clock.now + settings.scanInterval.millis) maxWord)
        (first.along sweepReadings actions) ∧
      last.MovedByItsOwn ∧
      (∀ now, (last.schedule.reloadDue now = true ↔ last.schedule.nextReload ≤ now) ∧
        (last.schedule.sweepDue now = true ↔ last.schedule.nextSweep ≤ now)) ∧
      ∀ now later now', last.schedule.reloadDue now = true → now ≤ now' →
        last.along reloadReadings later = [] →
        (last.run later).schedule.reloadDue now' = true := by
  intro first last
  refine ⟨nextReload_run first actions, nextSweep_run first actions, movedByItsOwn last,
    fun now => ⟨decide_eq_true_iff, decide_eq_true_iff⟩, ?_⟩
  intro now later now' hdue hle hnone
  have hkept : (last.run later).schedule.nextReload = last.schedule.nextReload := by
    rw [nextReload_run, hnone]
    rfl
  have hnow : last.schedule.nextReload ≤ now := of_decide_eq_true hdue
  rw [Schedule.reloadDue, hkept]
  exact decide_eq_true (hnow.trans hle)

end Gateway

end SensorGateway
