import Mathlib.Data.List.Dedup
import SensorGateway.Proofs.Reload.Refresh

/-!
What an incremental reload counts. The sensors found are counted once each, however often they
were requested. The sensors that are dropped are not: a request for a sensor that is not stored
counts each time it is made. So the count of these depends on the list, and not only on the
set of sensors in it.
-/

namespace SensorGateway

namespace Memory

/-- The requests for sensors that are not stored, as often as they are made. -/
def unstored (m : Memory) (ids : List ObjectId) : List ObjectId :=
  ids.filter fun id => (m.sensors.table.get? id).isNone

theorem Keyed.missing_eq_unstored {m : Memory} (h : m.Keyed) (ids : List ObjectId) :
    (m.harvestOf ids).missing ids = m.unstored ids := by
  rw [Harvest.missing, unstored]
  refine List.filter_congr fun id hid => ?_
  have hmissing := mem_missing_iff h ids id
  rw [Harvest.missing, List.mem_filter, and_congr_right_iff] at hmissing
  rw [Bool.eq_iff_iff, hmissing hid, Option.isNone_iff_eq_none]

/-- What is found depends on the set of requested sensors only. -/
theorem harvestOf_congr (m : Memory) {ids ids' : List ObjectId}
    (h : ∀ id, id ∈ ids ↔ id ∈ ids') : m.harvestOf ids = m.harvestOf ids' := by
  have hamong : m.sensors.among ids = m.sensors.among ids' := by
    refine List.filter_congr fun s _ => ?_
    rw [Bool.eq_iff_iff, List.contains_iff_mem, List.contains_iff_mem, h]
  simp only [harvestOf, hamong]

theorem setOf_found (m : Memory) (ids : List ObjectId) :
    {id | ∃ s, m.FoundSensor ids id s} =
      {id | id ∈ ids ∧ ∃ s, m.sensors.table.get? id = some s} := by
  simp only [FoundSensor, exists_and_left]

theorem setOf_unstored (m : Memory) (ids : List ObjectId) :
    {id | id ∈ m.unstored ids} = {id | id ∈ ids ∧ m.sensors.table.get? id = none} := by
  simp only [unstored, List.mem_filter, Option.isNone_iff_eq_none]

end Memory

/-- A list has as many members as entries exactly if none is repeated. -/
theorem encard_mem_eq_length_iff {α : Type} [DecidableEq α] {l : List α} :
    {a | a ∈ l}.encard = l.length ↔ l.Nodup := by
  have hcard : {a | a ∈ l}.encard = l.dedup.length := by
    rw [← List.card_toFinset, ← Set.encard_coe_eq_coe_finsetCard, List.coe_toFinset]
  rw [hcard, Nat.cast_inj, ← List.dedup_eq_self]
  exact ⟨fun h => (List.dedup_sublist l).eq_of_length h, fun h => by rw [h]⟩

namespace Gateway

/-- What the summary of an incremental reload counts: the sensors found one by one, and the
requests for sensors that are not stored. -/
structure CountsRequests (g : Gateway Memory) (ids : List ObjectId) (summary : ReloadSummary) :
    Prop where
  sensors : {id | id ∈ ids ∧ ∃ s, g.repositories.sensors.table.get? id = some s}.encard =
    summary.sensors
  flushed : summary.flushed = (g.repositories.unstored ids).length
  /-- The number of distinct sensors that are dropped is another one if there are
  repetitions. -/
  distinct : {id | id ∈ ids ∧ g.repositories.sensors.table.get? id = none}.encard =
    summary.flushed ↔ (g.repositories.unstored ids).Nodup
  total : {id | id ∈ ids}.encard = summary.sensors + summary.flushed ↔
    (g.repositories.unstored ids).Nodup

theorem reloadSensors_fst {g : Gateway Memory} (hkeyed : g.repositories.Keyed)
    (hworking : ∀ part, g.repositories.isFailing part = false) (ids : List ObjectId) :
    (g.reloadSensors ids).1 =
      .ok ((g.repositories.harvestOf ids).summary (g.repositories.unstored ids).length) := by
  by_cases hids : ids = []
  · subst hids
    have hharvest : g.repositories.harvestOf [] = ⟨[], [], []⟩ := by
      simp [Memory.harvestOf, SensorStore.among, owners, UserStore.known, KeyStore.live]
    rw [reloadSensors, if_pos rfl, hharvest]
    rfl
  · obtain ⟨served, metrics, h⟩ := reloadSensors_of_working hids hworking
    rw [h, hkeyed.missing_eq_unstored]

theorem countsRequests {g : Gateway Memory} (hkeyed : g.repositories.Keyed)
    (ids : List ObjectId) :
    g.CountsRequests ids
      ((g.repositories.harvestOf ids).summary (g.repositories.unstored ids).length) := by
  have hsensors : {id | id ∈ ids ∧ ∃ s, g.repositories.sensors.table.get? id = some s}.encard =
      (g.repositories.harvestOf ids).sensors.length := by
    rw [← Memory.setOf_found]
    exact Table.encard_found (Memory.get?_requestedTable_iff hkeyed ids)
      (g.repositories.among_eq_values ids)
  have hdistinct : {id | id ∈ ids ∧ g.repositories.sensors.table.get? id = none}.encard =
      (g.repositories.unstored ids).length ↔ (g.repositories.unstored ids).Nodup := by
    rw [← Memory.setOf_unstored]
    exact encard_mem_eq_length_iff
  refine ⟨hsensors, rfl, hdistinct, ?_⟩
  -- what is requested is stored or not, and each half is counted by itself
  have hsplit : {id | id ∈ ids} =
      {id | id ∈ ids ∧ ∃ s, g.repositories.sensors.table.get? id = some s} ∪
        {id | id ∈ ids ∧ g.repositories.sensors.table.get? id = none} := by
    ext id
    cases hget : g.repositories.sensors.table.get? id <;> simp [hget]
  have hdisjoint : Disjoint
      {id | id ∈ ids ∧ ∃ s, g.repositories.sensors.table.get? id = some s}
      {id | id ∈ ids ∧ g.repositories.sensors.table.get? id = none} := by
    refine Set.disjoint_left.2 fun id hfound hnone => ?_
    obtain ⟨-, s, hs⟩ := hfound
    cases hs.symm.trans hnone.2
  rw [hsplit, Set.encard_union_eq hdisjoint, hsensors, ← hdistinct]
  exact (ENat.add_right_injective_of_ne_top (ENat.natCast_ne_top _)).eq_iff

/-- How the summaries of incremental reloads depend on the requests. -/
structure SummarizesRequests (g : Gateway Memory) : Prop where
  counts : ∀ ids, ∃ summary, (g.reloadSensors ids).1 = .ok summary ∧
    g.CountsRequests ids summary
  /-- Neither the order of the requests nor repetitions have a bearing on what is found. -/
  sameSensors : ∀ ids ids', (∀ id, id ∈ ids ↔ id ∈ ids') → ∃ summary flushed,
    (g.reloadSensors ids).1 = .ok summary ∧
      (g.reloadSensors ids').1 = .ok { summary with flushed := flushed }
  /-- The order of the requests has no bearing on the count of the sensors dropped. -/
  sameRequests : ∀ ids ids', ids.Perm ids' → (g.reloadSensors ids).1 = (g.reloadSensors ids').1

/-- An incremental reload of working repositories counts each sensor found once, and as dropped
each request for a sensor that is not stored. That is the number of distinct sensors dropped,
and found and dropped sensors sum up to the distinct sensors requested, exactly if none of those
that are not stored is requested twice. -/
theorem reloadSensors_counts_requests {g : Gateway Memory} (hbuilt : g.repositories.Built)
    (hworking : ∀ part, g.repositories.isFailing part = false) : g.SummarizesRequests where
  counts ids := ⟨_, reloadSensors_fst hbuilt.keyed hworking ids, countsRequests hbuilt.keyed ids⟩
  sameSensors ids ids' h := by
    have hids := reloadSensors_fst hbuilt.keyed hworking ids
    have hids' := reloadSensors_fst hbuilt.keyed hworking ids'
    rw [← g.repositories.harvestOf_congr h] at hids'
    exact ⟨_, _, hids, hids'⟩
  sameRequests ids ids' h := by
    have hlength : (g.repositories.unstored ids).length = (g.repositories.unstored ids').length :=
      (h.filter _).length_eq
    rw [reloadSensors_fst hbuilt.keyed hworking, reloadSensors_fst hbuilt.keyed hworking,
      g.repositories.harvestOf_congr fun id => h.mem_iff, hlength]

/-- One stored sensor is requested, and three times the one that is gone. -/
theorem reloadSensors_counts_requests_straySample :
    straySample.repositories.Built ∧
      (∀ part, straySample.repositories.isFailing part = false) ∧
      ∃ summary, (straySample.reloadSensors [goneId, strayId, goneId, goneId]).1 = .ok summary ∧
        straySample.CountsRequests [goneId, strayId, goneId, goneId] summary :=
  ⟨built_straySample, working_straySample,
    (reloadSensors_counts_requests built_straySample working_straySample).counts
      [goneId, strayId, goneId, goneId]⟩

def bareSample : Gateway Memory :=
  .start { clock := { time := 0 } } {} {} {} {}

/-- A sensor that is not stored is requested twice. It is a single sensor, but it counts as two
that were dropped, and as one if it is requested once. -/
theorem reloadSensors_counts_a_sensor_twice :
    (∃ summary, (bareSample.reloadSensors [goneId, goneId]).1 = .ok summary ∧
      summary.flushed = 2 ∧
      {id | id ∈ [goneId, goneId] ∧
        bareSample.repositories.sensors.table.get? id = none}.encard = 1) ∧
    (bareSample.reloadSensors [goneId, goneId]).1 ≠ (bareSample.reloadSensors [goneId]).1 := by
  have hworking : ∀ part, bareSample.repositories.isFailing part = false := by
    intro part
    cases part <;> rfl
  have honce := reloadSensors_fst (g := bareSample) Memory.Built.empty.keyed hworking [goneId]
  have htwice := reloadSensors_fst (g := bareSample) Memory.Built.empty.keyed hworking
    [goneId, goneId]
  refine ⟨⟨_, htwice, rfl, ?_⟩, ?_⟩
  · have hgone : bareSample.repositories.sensors.table.get? goneId = none := rfl
    have hset : {id | id ∈ [goneId, goneId] ∧
        bareSample.repositories.sensors.table.get? id = none} = {goneId} := by
      ext id
      constructor
      · rintro ⟨hid, -⟩
        simpa using hid
      · rintro rfl
        exact ⟨List.mem_cons_self, hgone⟩
    rw [hset, Set.encard_singleton]
  · rw [honce, htwice]
    intro h
    cases congrArg ReloadSummary.flushed (Except.ok.inj h)

end Gateway

end SensorGateway
