import SensorGateway.Proofs.Gateway.Availability
import SensorGateway.Proofs.Reload.Agreement

/-!
Measurements that are handed back can be submitted again. A reload that finds the sensor of a
deferred one writes the record of the sensor anew, at the instant of the reload; from then on
the measurement is taken as long as the record is served and if there is room. One for which
there was no room is taken after a flush, whatever the publisher answers, if its sensor is
still available. It is the same measurement all along.
-/

namespace SensorGateway

/-- An entry is served until its age exceeds the timeout. -/
theorem TimedMap.contains_of_get? {κ α : Type} [DecidableEq κ] {m : TimedMap κ α}
    {timeout : Span} {k : κ} {entry : Stamped α} {tp : Nat} (h : m.get? k = some entry)
    (hage : tp ≤ entry.stamp + timeout.millis) : m.contains timeout k tp = true := by
  rw [contains, h, Option.any_some, Stamped.isFresh_iff]
  exact hage

theorem Authorization.statusAt_of_get? {a : Authorization} {id : ObjectId}
    {entry : Stamped SensorRecord} {tp : Nat} (hbarred : a.isBlacklisted id = false)
    (h : a.sensors.get? id = some entry) (hage : tp ≤ entry.stamp + a.timeout.millis) :
    a.statusAt id tp = .available := by
  rw [statusAt, hbarred, if_neg Bool.false_ne_true, TimedMap.contains_of_get? h hage, if_pos rfl]

theorem Buffer.process_snd (b : Buffer) (o : Outlet) :
    (b.process o).2.1 = { capacity := b.capacity } := by
  by_cases h : b.contents = []
  · rw [process_of_nil h]
    obtain ⟨capacity, pending⟩ := b
    obtain rfl : pending = #[] := contents_eq_nil_iff.1 h
    rfl
  · exact (process_of_ne_nil h o).2.1

namespace Gateway

/-! ### Submitting -/

section Submitting

variable {ρ : Type} {g : Gateway ρ} {m : Measurement}

/-- A measurement is taken if the buffer has room, and else handed back. -/
def TakenIfRoom (g : Gateway ρ) (m : Measurement) : Prop :=
  if g.buffer.size < g.buffer.capacity then
    (g.submit m).1 = .admitted ∧
      (g.submit m).2.buffer.contents = g.buffer.contents ++ [m.payload]
  else (g.submit m).1 = .overflow m ∧ (g.submit m).2.buffer = g.buffer

theorem takenIfRoom_of_available (h : g.cache.statusAt m.sensorId g.clock.now = .available) :
    g.TakenIfRoom m := by
  rcases admitOne_cases g.readClock.2 g.clock.now m with
    ⟨hs, -⟩ | ⟨hs, -⟩ | ⟨-, hroom, hsubmit⟩ | ⟨-, hfull, hsubmit⟩
  · cases h.symm.trans hs
  · cases h.symm.trans hs
  · replace hroom : g.buffer.size < g.buffer.capacity := hroom
    replace hsubmit : g.submit m = _ := hsubmit
    rw [TakenIfRoom, if_pos hroom, hsubmit]
    exact ⟨rfl, Buffer.contents_push g.buffer m.payload⟩
  · replace hfull : g.buffer.capacity ≤ g.buffer.size := hfull
    replace hsubmit : g.submit m = _ := hsubmit
    rw [TakenIfRoom, if_neg (Nat.not_lt.2 hfull), hsubmit]
    exact ⟨rfl, rfl⟩

/-- A measurement that is not admitted leaves the buffer as it was. -/
theorem buffer_of_ne_admitted (h : (g.submit m).1 ≠ .admitted) :
    (g.submit m).2.buffer = g.buffer :=
  (buffer_admitOne g.readClock.2 g.clock.now m).resolve_left h

theorem eq_of_deferred {m' : Measurement} (h : (g.submit m).1 = .deferred m') : m' = m := by
  have hback : (g.submit m).1.HandsBack m := handsBack_admitOne g.readClock.2 g.clock.now m
  rwa [h] at hback

theorem eq_of_overflow {m' : Measurement} (h : (g.submit m).1 = .overflow m') : m' = m := by
  have hback : (g.submit m).1.HandsBack m := handsBack_admitOne g.readClock.2 g.clock.now m
  rwa [h] at hback

/-- A measurement of a barred sensor would have been rejected. -/
theorem isBlacklisted_of_deferred {m' : Measurement} (h : (g.submit m).1 = .deferred m') :
    g.cache.isBlacklisted m.sensorId = false := by
  rw [← Bool.not_eq_true]
  intro hbarred
  have hrejected : (g.submit m).1 = .rejected :=
    (turnedAway_admitOne (g := g.readClock.2) hbarred g.clock.now).1
  cases h.symm.trans hrejected

end Submitting

/-! ### Reloading -/

def Action.Reloads {ρ : Type} (id : ObjectId) : Action ρ → Prop
  | .reloadAll => True
  | .reloadSensors ids => id ∈ ids
  | .reloadSensor sensor => sensor = id
  | _ => False

/-- Whether a reload succeeded and, if it was of one sensor, found it. -/
def Reply.Succeeds : Reply → Prop
  | .reloaded (.ok _) => True
  | .reloadedOne (.ok found) => found = true
  | _ => False

theorem reloaded_of_reloads {ρ : Type} [Directory ρ] (g : Gateway ρ) {id : ObjectId}
    {reload : Action ρ} (hreload : reload.Reloads id) : Reloaded g (g.step reload).2 := by
  cases reload with
  | reloadAll => exact reloaded_reloadAll g
  | reloadSensors ids => exact reloaded_reloadSensors g ids
  | reloadSensor sensor => exact reloaded_reloadSensor g sensor
  | _ => exact hreload.elim

/-- A reload of a stored sensor succeeds and writes the sensor at the present instant. -/
theorem written_of_reloads {g : Gateway Memory} (hkeyed : g.repositories.Keyed)
    (hworking : ∀ part, g.repositories.isFailing part = false) {id : ObjectId}
    {record : SensorRecord} (hrecord : g.repositories.sensors.table.get? id = some record)
    {reload : Action Memory} (hreload : reload.Reloads id) :
    (g.step reload).1.Succeeds ∧
      (g.step reload).2.cache.sensors.get? id = some ⟨record, g.clock.now⟩ := by
  cases reload with
  | reloadAll =>
      obtain ⟨served, metrics, h⟩ := reloadAll_of_working hworking
      have hmerges := @mergesAll_of_harvest g hkeyed served metrics
      rw [step, h]
      exact ⟨trivial, hmerges.sensors.written id record hrecord⟩
  | reloadSensors ids =>
      obtain ⟨summary, g', h, hrefreshes⟩ :=
        exists_refreshes hkeyed hworking (List.ne_nil_of_mem hreload)
      rw [step, h]
      exact ⟨trivial, hrefreshes.sensors.written id hreload record hrecord⟩
  | reloadSensor sensor =>
      obtain rfl : sensor = id := hreload
      obtain ⟨metrics, h⟩ := reloadSensor_of_working sensor hworking
      rw [step, h, hrecord]
      refine ⟨rfl, ?_⟩
      have hid : record.id = sensor := hkeyed.sensors sensor record hrecord
      show (g.cache.sensors.upsert g.clock.now record.id record).get? sensor = _
      rw [TimedMap.get?_upsert, if_pos hid.symm]
  | _ => exact hreload.elim

/-! ### Trying again -/

/-- What becomes of a measurement that is handed back. -/
structure Retryable (g after : Gateway Memory) (m : Measurement) (outcome : Admission) : Prop where
  /-- One that is deferred did not get into the buffer. A reload of its sensor writes the
  stored record at its first reading of the clock. Then the measurement is taken if there is
  room, as long as this record is served. -/
  deferred : ∀ m', outcome = .deferred m' → m' = m ∧ after.buffer = g.buffer ∧
    ∀ before : Gateway Memory, before.cache.blacklist = after.cache.blacklist →
      before.repositories.Built → (∀ part, before.repositories.isFailing part = false) →
      ∀ record, before.repositories.sensors.table.get? m.sensorId = some record →
      ∀ reload, reload.Reloads m.sensorId → (before.step reload).1.Succeeds ∧
        (before.step reload).2.cache.sensors.get? m.sensorId =
          some ⟨record, before.clock.now⟩ ∧
        ∀ later : Gateway Memory, later.cache = (before.step reload).2.cache →
          later.clock.now ≤ before.clock.now + later.cache.timeout.millis →
            later.TakenIfRoom m
  /-- One for which there was no room did not get into the buffer either. It is taken after a
  flush as long as its sensor is available. -/
  overflow : ∀ m', outcome = .overflow m' → m' = m ∧ after.buffer = g.buffer ∧
    ∀ before later : Gateway Memory, before.buffer = after.buffer →
      later.buffer = (before.step (.buffer .process)).2.buffer → 1 ≤ g.buffer.capacity →
      later.cache.statusAt m.sensorId later.clock.now = .available →
      (later.submit m).1 = .admitted ∧ (later.submit m).2.buffer.contents = [m.payload]

theorem retryable_submit (g : Gateway Memory) (m : Measurement) :
    g.Retryable (g.submit m).2 m (g.submit m).1 where
  deferred := by
    intro m' h
    refine ⟨eq_of_deferred h, buffer_of_ne_admitted (by simp [h]), ?_⟩
    intro before hblacklist hbuilt hworking record hrecord reload hreload
    obtain ⟨hsucceeds, hwritten⟩ := written_of_reloads hbuilt.keyed hworking hrecord hreload
    refine ⟨hsucceeds, hwritten, ?_⟩
    intro later hcache htime
    -- the sensor was not barred when its measurement was deferred, nor by a reload since
    have hlater : later.cache.isBlacklisted m.sensorId = false := by
      rw [cache_submit] at hblacklist
      rw [hcache, Authorization.isBlacklisted, (reloaded_of_reloads before hreload).blacklist,
        hblacklist]
      exact isBlacklisted_of_deferred h
    rw [← hcache] at hwritten
    exact takenIfRoom_of_available (Authorization.statusAt_of_get? hlater hwritten htime)
  overflow := by
    intro m' h
    have hbuffer : (g.submit m).2.buffer = g.buffer := buffer_of_ne_admitted (by simp [h])
    refine ⟨eq_of_overflow h, hbuffer, ?_⟩
    intro before later hbefore hlater hcapacity havailable
    have hflushed : later.buffer = { capacity := g.buffer.capacity } := by
      rw [hlater, ← hbuffer, ← hbefore]
      exact before.buffer.process_snd before.toOutlet
    have htaken := takenIfRoom_of_available havailable
    have hroom : Buffer.size { capacity := g.buffer.capacity } < g.buffer.capacity := hcapacity
    rw [TakenIfRoom, hflushed, if_pos hroom] at htaken
    exact htaken

/-- What becomes of a document: one that names its sensor is submitted as the measurement it
is, any other one is counted as rejected and leaves all else as it is, the clock included. -/
structure SubmittedAsMeasurement (g : Gateway Memory) (payload : String) : Prop where
  read : ∀ m, Measurement.ofDocument payload = .ok m →
    m.payload = payload ∧ g.submitDocument payload = g.submit m
  unread : ∀ e, Measurement.ofDocument payload = .error e → g.submitDocument payload =
    (.rejected, { g with metrics := { g.metrics with rejected := g.metrics.rejected + 1 } })
  handedBack : ∀ m, (g.submitDocument payload).1 = .deferred m ∨
    (g.submitDocument payload).1 = .overflow m → Measurement.ofDocument payload = .ok m ∧
    g.Retryable (g.submitDocument payload).2 m (g.submitDocument payload).1

theorem submittedAsMeasurement (g : Gateway Memory) (payload : String) :
    g.SubmittedAsMeasurement payload := by
  rcases submitDocument_cases g payload with ⟨m, hm, h⟩ | ⟨e, he, h⟩
  · refine ⟨fun m' hm' => ?_, fun e he => ?_, fun m' hback => ?_⟩
    · obtain rfl := Except.ok.inj (hm.symm.trans hm')
      exact ⟨Measurement.payload_of_ofDocument hm, h⟩
    · cases hm.symm.trans he
    · rw [h] at hback ⊢
      obtain rfl : m' = m := by
        rcases hback with hback | hback
        · exact eq_of_deferred hback
        · exact eq_of_overflow hback
      exact ⟨hm, retryable_submit g m'⟩
  · refine ⟨fun m hm => ?_, fun e' he' => h, fun m hback => ?_⟩
    · cases he.symm.trans hm
    · rw [h] at hback
      rcases hback with hback | hback <;> cases hback

/-- Measurements that are handed back can be retried without loss, be they submitted as they
are or as documents. -/
theorem handed_back_retryable (g : Gateway Memory) :
    (∀ m, g.Retryable (g.submit m).2 m (g.submit m).1) ∧
      ∀ payload, g.SubmittedAsMeasurement payload :=
  ⟨retryable_submit g, submittedAsMeasurement g⟩

def strayMeasurement : Measurement :=
  ⟨strayId, "p"⟩

/-- The sensor is stored, though not held, so its measurement is deferred; after a reload of
the sensor it is admitted. -/
theorem handed_back_retryable_straySample :
    (straySample.submit strayMeasurement).1 = .deferred strayMeasurement ∧
      (((straySample.submit strayMeasurement).2.step (.reloadSensor strayId)).2.submit
        strayMeasurement).1 = .admitted := by
  have hdeferred : (straySample.submit strayMeasurement).1 = .deferred strayMeasurement := rfl
  have hretry := ((handed_back_retryable straySample).1 strayMeasurement).deferred
    strayMeasurement hdeferred
  obtain ⟨-, -, htaken⟩ := hretry.2.2 (straySample.submit strayMeasurement).2 rfl
    built_straySample working_straySample { id := strayId, owner := strayKey.owner } rfl
    (.reloadSensor strayId) rfl
  have htaken := htaken _ rfl (by decide)
  rw [TakenIfRoom, if_pos (by decide)] at htaken
  exact ⟨hdeferred, htaken.1⟩

end Gateway

end SensorGateway
