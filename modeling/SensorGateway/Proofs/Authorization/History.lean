import SensorGateway.Proofs.Authorization.Entry

/-!
What a decision says about the past. A history lists the cache operations since the start,
each with the reading of the clock it was carried out at; the readings need not increase.
`Barred` and `HoldsSensor` read off a history whether a sensor is barred and which record of
it is held, and `statusAt_run_iff` says that decisions and look-ups depend on nothing else.
-/

namespace SensorGateway

namespace CacheOp

/-- The record that an operation lists for a sensor; of several the last one. -/
def listed? (id : ObjectId) : CacheOp → Option SensorRecord
  | .appendSensors sensors => lastUnder SensorRecord.id id sensors
  | _ => none

/-- The bound beyond which an operation drops records for their age. -/
def ageBound? (timeout : Span) : CacheOp → Option Span
  | .cleanup => some timeout
  | .cleanupFor maxAge => some maxAge
  | _ => none

/-- Whether an operation at the instant `now` drops the record of a sensor that was written
at the instant `stamp`. -/
def Drops (timeout : Span) (id : ObjectId) (stamp now : Nat) (op : CacheOp) : Prop :=
  op = .flushSensor id ∨ op = .clear ∨
    ∃ bound, op.ageBound? timeout = some bound ∧ bound.millis < now - stamp

theorem onEntry_sensors_eq_write_iff {timeout : Span} {id : ObjectId} {op : CacheOp}
    {record : SensorRecord} :
    RecordKind.sensors.onEntry timeout id op = .write record ↔ op.listed? id = some record := by
  cases op with
  | appendSensors sensors => exact EntryOp.writeIf_eq_write_iff
  | flushSensor i =>
      simp only [RecordKind.onEntry, RecordKind.sensors, onSensors, RecordOp.onEntry, listed?]
      split <;> simp
  | _ =>
      simp [RecordKind.onEntry, RecordKind.sensors, onSensors, onOthers, RecordOp.onEntry, listed?]

theorem spares_onEntry_sensors_iff {timeout : Span} {id : ObjectId} {stamp now : Nat}
    {op : CacheOp} :
    (RecordKind.sensors.onEntry timeout id op).Spares stamp now ↔
      op.listed? id = none ∧ ¬op.Drops timeout id stamp now := by
  simp only [RecordKind.onEntry, RecordKind.sensors]
  cases op with
  | appendSensors sensors =>
      simp only [onSensors, RecordOp.onEntry, listed?, Drops, ageBound?]
      cases lastUnder SensorRecord.id id sensors <;> simp [EntryOp.writeIf, EntryOp.Spares]
  | flushSensor i =>
      simp only [onSensors, RecordOp.onEntry, listed?, Drops, ageBound?]
      by_cases h : id = i
      · simp [h, EntryOp.Spares]
      · simp [h, Ne.symm h, EntryOp.Spares]
  | _ =>
      simp [onSensors, onOthers, RecordOp.onEntry, listed?, Drops, ageBound?, EntryOp.Spares]

end CacheOp

/-- The last operation that bars a sensor or lifts its bar was one that bars it. -/
def Barred (history : List (Nat × CacheOp)) (id : ObjectId) : Prop :=
  SetLast (fun e => e.2.Bars id) (fun e => ¬e.2.Bars id ∧ ¬e.2.Unbars id) history

/-- The last operation that lists a sensor wrote `record` for it at the instant `stamp`, and
none of the operations since then dropped it. -/
def HoldsSensor (timeout : Span) (history : List (Nat × CacheOp)) (id : ObjectId)
    (record : SensorRecord) (stamp : Nat) : Prop :=
  SetLast (fun e => e.1 = stamp ∧ e.2.listed? id = some record)
    (fun e => e.2.listed? id = none ∧ ¬e.2.Drops timeout id stamp e.1) history

namespace Authorization

theorem timeout_run (a : Authorization) (history : List (Nat × CacheOp)) :
    (a.run history).timeout = a.timeout := by
  induction history generalizing a with
  | nil => rfl
  | cons e history ih => exact (ih _).trans (timeout_apply a e.1 e.2)

theorem isBlacklisted_run_iff (timeout : Span) (history : List (Nat × CacheOp))
    (id : ObjectId) :
    (run { timeout := timeout } history).isBlacklisted id = true ↔ Barred history id := by
  exact holds_foldl_iff_setLast (I := fun _ => True)
    (P := fun a : Authorization => a.isBlacklisted id = true) (fun _ _ _ => trivial)
    (fun a e _ => isBlacklisted_apply a e.1 e.2 id) trivial
    (by simp [isBlacklisted, Table.contains]) history

/-- What is held under an identity after a history: the record that the last operation wrote
which did not spare it. -/
theorem held_run_eq_some_iff {κ α : Type} [DecidableEq κ] (kind : RecordKind κ α)
    (timeout : Span) (history : List (Nat × CacheOp)) (k : κ) (record : α) (stamp : Nat) :
    (kind.held (run { timeout := timeout } history)).get? k = some ⟨record, stamp⟩ ↔
      SetLast (fun e => kind.onEntry timeout k e.2 = .write record ∧ e.1 = stamp)
        (fun e => (kind.onEntry timeout k e.2).Spares stamp e.1) history := by
  -- What a cleanup drops depends on the timeout, so its constancy is the invariant.
  refine holds_foldl_iff_setLast (I := fun a : Authorization => a.timeout = timeout)
    (P := fun a => (kind.held a).get? k = some ⟨record, stamp⟩)
    (fun a e ha => (timeout_apply a e.1 e.2).trans ha) ?_ rfl (by simp [kind.held_start]) history
  rintro a e rfl
  rw [kind.get?_apply, EntryOp.apply_eq_some_iff]

theorem sensors_run_eq_some_iff (timeout : Span) (history : List (Nat × CacheOp))
    (id : ObjectId) (record : SensorRecord) (stamp : Nat) :
    (run { timeout := timeout } history).sensors.get? id = some ⟨record, stamp⟩ ↔
      HoldsSensor timeout history id record stamp := by
  refine (held_run_eq_some_iff RecordKind.sensors timeout history id record stamp).trans ?_
  simp only [HoldsSensor, CacheOp.onEntry_sensors_eq_write_iff,
    CacheOp.spares_onEntry_sensors_iff, and_comm]

theorem getSensor_run_eq_some_iff (timeout : Span) (history : List (Nat × CacheOp))
    (id : ObjectId) (tp : Nat) (record : SensorRecord) :
    (run { timeout := timeout } history).getSensor id tp = some record ↔
      ∃ stamp, HoldsSensor timeout history id record stamp ∧ tp - stamp ≤ timeout.millis := by
  rw [getSensor, TimedMap.lookup_eq_some_iff, timeout_run]
  simp only [sensors_run_eq_some_iff]

/-- Decisions and look-ups after a history: a sensor is unavailable exactly if it is barred,
otherwise available exactly if a record of it is held that is not too old, and unknown in
all other cases; looking the sensor up finds exactly such a record, barred or not. -/
theorem statusAt_run_iff (timeout : Span) (history : List (Nat × CacheOp)) (id : ObjectId)
    (tp : Nat) :
    let a := run { timeout := timeout } history
    let fresh := fun record => ∃ stamp, HoldsSensor timeout history id record stamp ∧
      tp - stamp ≤ timeout.millis
    (a.statusAt id tp = .unavailable ↔ Barred history id) ∧
      (a.statusAt id tp = .available ↔ ¬Barred history id ∧ ∃ record, fresh record) ∧
      (a.statusAt id tp = .unknown ↔ ¬Barred history id ∧ ¬∃ record, fresh record) ∧
      ∀ record, a.getSensor id tp = some record ↔ fresh record := by
  intro a fresh
  have hlookup : ∀ record, a.getSensor id tp = some record ↔ fresh record :=
    getSensor_run_eq_some_iff timeout history id tp
  have hcontains : a.sensors.contains a.timeout id tp = true ↔ ∃ record, fresh record :=
    TimedMap.contains_iff_exists_lookup.trans (exists_congr hlookup)
  have hbarred : a.isBlacklisted id = true ↔ Barred history id :=
    isBlacklisted_run_iff timeout history id
  rw [← hbarred, ← hcontains]
  refine ⟨?_, ?_, ?_, hlookup⟩
  all_goals
    unfold statusAt
    cases a.isBlacklisted id <;> cases a.sensors.contains a.timeout id tp <;> simp

end Authorization

end SensorGateway
