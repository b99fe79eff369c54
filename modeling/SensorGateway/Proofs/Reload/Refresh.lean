import SensorGateway.Proofs.Reload.Merge

/-!
What an incremental reload leaves behind. It brings the requested sensors in line with the
repository: those that are stored are written, the others are dropped. The known owners of
the sensors found are written too, and so are the keys of all their owners, known or not.
Every other record stays as it was.
-/

namespace SensorGateway

namespace TimedMap

variable {κ α : Type} [DecidableEq κ]

def removeAll (m : TimedMap κ α) (ks : List κ) : TimedMap κ α :=
  ks.foldl remove m

theorem get?_removeAll (m : TimedMap κ α) (ks : List κ) (k : κ) :
    (m.removeAll ks).get? k = if k ∈ ks then none else m.get? k := by
  induction ks generalizing m with
  | nil => simp [removeAll]
  | cons i ks ih =>
      have hstep : m.removeAll (i :: ks) = (m.remove i).removeAll ks := rfl
      rw [hstep, ih, get?_remove]
      by_cases hk : k ∈ ks
      · simp [hk]
      · by_cases hi : k = i <;> simp [hk, hi]

/-- A map after some keys were brought in line with a table at an instant. What the table
holds under them is written, what it does not hold is dropped. -/
structure Aligned (t : Table κ α) (ks : List κ) (stamp : Nat) (before after : TimedMap κ α) :
    Prop where
  written : ∀ k ∈ ks, ∀ v, t.get? k = some v → after.get? k = some ⟨v, stamp⟩
  dropped : ∀ k ∈ ks, t.get? k = none → after.get? k = none
  kept : ∀ k, k ∉ ks → after.get? k = before.get? k

/-- To drop the keys that are missing in a table and then to merge the others is to bring
them all in line. -/
theorem aligned_of_merged {t : Table κ α} {ks missing : List κ} {stamp : Nat}
    {before after : TimedMap κ α}
    (hmissing : ∀ k, k ∈ missing ↔ k ∈ ks ∧ t.get? k = none)
    (h : Merged (fun k v => k ∈ ks ∧ t.get? k = some v) stamp (before.removeAll missing)
      after) :
    Aligned t ks stamp before after where
  written k hk v hv := h.written k v ⟨hk, hv⟩
  dropped k hk hnone := by
    have hkept := h.kept k fun v hv => by
      cases hnone.symm.trans hv.2
    rw [hkept, get?_removeAll, if_pos ((hmissing k).2 ⟨hk, hnone⟩)]
  kept k hk := by
    have hkept := h.kept k fun v hv => hk hv.1
    rw [hkept, get?_removeAll, if_neg fun hm => hk ((hmissing k).1 hm).1]

end TimedMap

/-! ### Dropping sensors -/

/-- Dropping sensors takes no time, so what follows happens at the same instants. -/
theorem CacheOp.timed_flushSensors (clock : Clock) (ids : List ObjectId) (ops : List CacheOp) :
    timed clock (ids.map flushSensor ++ ops) =
      (ids.map fun id => (clock.now, flushSensor id)) ++ timed clock ops := by
  induction ids with
  | nil => rfl
  | cons id ids ih => exact congrArg ((clock.now, flushSensor id) :: ·) ih

theorem CacheOp.clockAfter_flushSensors (clock : Clock) (ids : List ObjectId)
    (ops : List CacheOp) :
    (ids.map flushSensor ++ ops).foldl clockAfter clock = ops.foldl clockAfter clock := by
  induction ids with
  | nil => rfl
  | cons id ids ih => exact ih

theorem Authorization.run_flushSensors (a : Authorization) (now : Nat) (ids : List ObjectId) :
    a.run (ids.map fun id => (now, .flushSensor id)) =
      { a with sensors := a.sensors.removeAll ids } := by
  induction ids generalizing a with
  | nil => rfl
  | cons id ids ih => exact ih _

/-! ### What is found -/

namespace Memory

def FoundSensor (m : Memory) (ids : List ObjectId) (id : ObjectId) (sensor : SensorRecord) :
    Prop :=
  id ∈ ids ∧ m.sensors.table.get? id = some sensor

/-- A stored key that is not revoked and that belongs to the owner of one of the sensors,
whether this owner is stored or not. -/
def OwnedKey (m : Memory) (sensors : List SensorRecord) (text : String) (key : ApiKeyRecord) :
    Prop :=
  m.keys.table.get? text = some key ∧ key.revoked = false ∧ ∃ s ∈ sensors, s.owner = key.owner

def requestedTable (m : Memory) (ids : List ObjectId) : Table ObjectId SensorRecord :=
  m.sensors.table.filter fun _ s => ids.contains s.id

theorem Keyed.requestedTable {m : Memory} (h : m.Keyed) (ids : List ObjectId) :
    (m.requestedTable ids).KeyedBy SensorRecord.id :=
  h.sensors.filter _

theorem among_eq_values (m : Memory) (ids : List ObjectId) :
    m.sensors.among ids = (m.requestedTable ids).values :=
  (Table.values_filter ..).symm

theorem get?_requestedTable_iff {m : Memory} (hkeyed : m.Keyed) (ids : List ObjectId)
    (id : ObjectId) (sensor : SensorRecord) :
    (m.requestedTable ids).get? id = some sensor ↔ m.FoundSensor ids id sensor := by
  rw [requestedTable, Table.get?_filter, Option.filter_eq_some_iff, FoundSensor, and_comm]
  refine and_congr_left fun hget => ?_
  rw [hkeyed.sensors id sensor hget, List.contains_iff_mem]

theorem get?_liveTable_contains_iff (m : Memory) (sensors : List SensorRecord) (text : String)
    (key : ApiKeyRecord) :
    (m.liveTable fun k => (owners sensors).contains k.owner).get? text = some key ↔
      m.OwnedKey sensors text key := by
  rw [get?_liveTable_iff, OwnedKey, List.contains_iff_mem, owners, List.mem_eraseDups,
    List.mem_map]

/-- The sensors that a reload drops are those requested that are not stored. -/
theorem mem_missing_iff {m : Memory} (hkeyed : m.Keyed) (ids : List ObjectId) (id : ObjectId) :
    id ∈ (m.harvestOf ids).missing ids ↔ id ∈ ids ∧ m.sensors.table.get? id = none := by
  have hfound : (m.harvestOf ids).sensors.map SensorRecord.id = (m.requestedTable ids).keys := by
    rw [harvestOf, among_eq_values, (hkeyed.requestedTable ids).map_values]
  rw [Harvest.missing, hfound, List.mem_filter, List.contains_eq_mem, Bool.not_eq_true',
    decide_eq_false_iff_not, ← Table.get?_eq_none_iff]
  refine and_congr_right fun hid => ?_
  simp only [Option.eq_none_iff_forall_ne_some, ne_eq, get?_requestedTable_iff hkeyed,
    FoundSensor, hid, true_and]

end Memory

/-! ### The reload -/

namespace Gateway

/-- What an incremental reload of some sensors does if all repositories work. The clock is
read three times: for the sensors, for the users and for the keys. -/
structure Refreshes (g g' : Gateway Memory) (ids : List ObjectId) (summary : ReloadSummary) :
    Prop where
  sensors : TimedMap.Aligned g.repositories.sensors.table ids (g.clock.afterReadings 0)
    g.cache.sensors g'.cache.sensors
  users : TimedMap.Merged (g.repositories.KnownOwner (g.repositories.sensors.among ids))
    (g.clock.afterReadings 1) g.cache.users g'.cache.users
  keys : TimedMap.Merged (g.repositories.OwnedKey (g.repositories.sensors.among ids))
    (g.clock.afterReadings 2) g.cache.keys g'.cache.keys
  blacklist : g'.cache.blacklist = g.cache.blacklist
  schedule : g'.schedule = g.schedule
  buffer : g'.buffer = g.buffer
  clock : g'.clock = Clock.afterReading^[3] g.clock
  sensorCount : {id | ∃ s, g.repositories.FoundSensor ids id s}.encard = summary.sensors
  userCount : {id | ∃ u, g.repositories.KnownOwner (g.repositories.sensors.among ids) id
    u}.encard = summary.users
  keyCount : {text | ∃ k, g.repositories.OwnedKey (g.repositories.sensors.among ids) text
    k}.encard = summary.keys

theorem performAll_opsFor (g : Gateway Memory) (h : Harvest) (ids : List ObjectId) :
    ∃ metrics, g.performAll (h.opsFor ids) = { g with
      clock := Clock.afterReading^[3] g.clock
      cache := Authorization.run
        { g.cache with sensors := g.cache.sensors.removeAll (h.missing ids) }
        (CacheOp.timed g.clock h.ops)
      metrics := metrics } := by
  obtain ⟨metrics, hperform⟩ := performAll_eq g (h.opsFor ids)
  rw [Harvest.opsFor, CacheOp.timed_flushSensors, CacheOp.clockAfter_flushSensors,
    Authorization.run_append, Authorization.run_flushSensors] at hperform
  exact ⟨metrics, hperform⟩

theorem reloadSensors_of_working {g : Gateway Memory} {ids : List ObjectId} (hids : ids ≠ [])
    (hworking : ∀ part, g.repositories.isFailing part = false) :
    let harvest := g.repositories.harvestOf ids
    ∃ served metrics, g.reloadSensors ids =
      (.ok (harvest.summary (harvest.missing ids).length), { g with
        repositories := g.repositories.servePages served
        clock := Clock.afterReading^[3] g.clock
        cache := Authorization.run
          { g.cache with sensors := g.cache.sensors.removeAll (harvest.missing ids) }
          (CacheOp.timed g.clock harvest.ops)
        metrics := metrics }) := by
  intro harvest
  rw [reloadSensors, if_neg hids, Reload.gatherSome_eq, Memory.consult_of_working hworking]
  obtain ⟨metrics, h⟩ := performAll_opsFor
    { g with repositories := g.repositories.servePages (g.repositories.pagesServed
      (g.repositories.sensors.among ids).length g.settings.effectivePageSize) } harvest ids
  exact ⟨_, metrics, congrArg (Prod.mk _) h⟩

/-- The records found, written after the missing sensors were dropped. -/
theorem refreshes_of_harvest {g : Gateway Memory} (hkeyed : g.repositories.Keyed)
    (ids : List ObjectId) {served flushed : Nat} {metrics : Metrics} :
    let harvest := g.repositories.harvestOf ids
    g.Refreshes { g with
      repositories := g.repositories.servePages served
      clock := Clock.afterReading^[3] g.clock
      cache := Authorization.run
        { g.cache with sensors := g.cache.sensors.removeAll (harvest.missing ids) }
        (CacheOp.timed g.clock harvest.ops)
      metrics := metrics } ids (harvest.summary flushed) := by
  intro harvest
  -- every part of the harvest is what remains of a stored table after filtering it
  have hsensors := g.repositories.among_eq_values ids
  have husers := g.repositories.known_owners (g.repositories.sensors.among ids)
  have hkeys : Authorization.liveKeys harvest.keys = (g.repositories.liveTable fun k =>
      (owners (g.repositories.sensors.among ids)).contains k.owner).values :=
    g.repositories.liveKeys_live _
  have hfound := Memory.get?_requestedTable_iff hkeyed ids
  have howners := Memory.get?_ownerTable_iff hkeyed (g.repositories.sensors.among ids)
  have howned := g.repositories.get?_liveTable_contains_iff (g.repositories.sensors.among ids)
  exact {
    sensors := TimedMap.aligned_of_merged (Memory.mem_missing_iff hkeyed ids)
      (TimedMap.merged_upsertMany (hkeyed.requestedTable ids) hfound hsensors _ _)
    users := TimedMap.merged_upsertMany (hkeyed.ownerTable _) howners husers _ _
    keys := TimedMap.merged_upsertMany (hkeyed.liveTable _) howned hkeys _ _
    blacklist := rfl
    schedule := rfl
    buffer := rfl
    clock := rfl
    sensorCount := Table.encard_found hfound hsensors
    userCount := Table.encard_found howners husers
    keyCount := Table.encard_found howned hkeys }

theorem exists_refreshes {g : Gateway Memory} (hkeyed : g.repositories.Keyed)
    (hworking : ∀ part, g.repositories.isFailing part = false) {ids : List ObjectId}
    (hids : ids ≠ []) :
    ∃ summary g', g.reloadSensors ids = (.ok summary, g') ∧ g.Refreshes g' ids summary := by
  obtain ⟨served, metrics, h⟩ := reloadSensors_of_working hids hworking
  exact ⟨_, _, h, refreshes_of_harvest hkeyed ids⟩

/-- An incremental reload of working repositories succeeds and brings the requested sensors
in line with them, whatever the size of a page and however often a sensor is requested. If
none is requested, nothing happens at all. -/
theorem reloadSensors_refreshes {g : Gateway Memory} (hbuilt : g.repositories.Built)
    (hworking : ∀ part, g.repositories.isFailing part = false) (ids : List ObjectId) :
    if ids = [] then g.reloadSensors ids = (.ok {}, g)
    else ∃ summary g', g.reloadSensors ids = (.ok summary, g') ∧
      g.Refreshes g' ids summary := by
  split
  · rename_i hids
    rw [reloadSensors, if_pos hids]
  · rename_i hids
    exact exists_refreshes hbuilt.keyed hworking hids

/-- The sensor of the paging sample whose owner is not known. -/
def strayId : ObjectId :=
  ⟨List.replicate 12 2, rfl⟩

def goneId : ObjectId :=
  ⟨List.replicate 12 3, rfl⟩

/-- A key of the owner who is not known. -/
def strayKey : ApiKeyRecord :=
  { key := "s", owner := ⟨List.replicate 16 2, rfl⟩ }

/-- The paging sample with this key, still holding a sensor that is no longer stored. -/
def straySample : Gateway Memory :=
  { pagingSample with
    cache := pagingSample.cache.appendSensors 4 [{ id := goneId, owner := strayKey.owner }]
    repositories := pagingSample.repositories.apply (.putKey strayKey) }

theorem built_straySample : straySample.repositories.Built := by
  have hpaging : pagingSample.repositories.Built := Memory.Built.empty.changedAll _
  exact hpaging.changed (.putKey strayKey)

theorem working_straySample (part : Memory.Part) :
    straySample.repositories.isFailing part = false := by
  cases part <;> rfl

/-- Both sensors are asked for twice. -/
theorem reloadSensors_refreshes_straySample :
    straySample.repositories.Built ∧
      (∀ part, straySample.repositories.isFailing part = false) ∧
      ∃ summary g', straySample.reloadSensors [strayId, goneId, strayId, goneId] =
          (.ok summary, g') ∧
        straySample.Refreshes g' [strayId, goneId, strayId, goneId] summary :=
  ⟨built_straySample, working_straySample,
    reloadSensors_refreshes built_straySample working_straySample
      [strayId, goneId, strayId, goneId]⟩

/-- It is not only the keys of known owners that an incremental reload writes. -/
theorem reloadSensors_writes_more_than_known_keys :
    let found := straySample.repositories.sensors.among [strayId]
    ¬∃ summary g', straySample.reloadSensors [strayId] = (.ok summary, g') ∧
      TimedMap.Merged
        (fun text key => straySample.repositories.OwnedKey found text key ∧
          ∃ user, straySample.repositories.KnownOwner found key.owner user)
        (straySample.clock.afterReadings 2) straySample.cache.keys g'.cache.keys := by
  rintro found ⟨summary, g', h, hmerged⟩
  obtain ⟨summary', g'', h', hrefreshes⟩ :=
    exists_refreshes built_straySample.keyed working_straySample (List.cons_ne_nil strayId [])
  obtain rfl : g' = g'' := congrArg Prod.snd (h.symm.trans h')
  have howned : straySample.repositories.OwnedKey found strayKey.key strayKey :=
    ⟨by decide, rfl, { id := strayId, owner := strayKey.owner }, by decide, rfl⟩
  have hunknown : straySample.repositories.users.table.get? strayKey.owner = none := by decide
  -- with known owners only, the entry of this key would not have changed
  have hkept := hmerged.kept strayKey.key fun key ⟨⟨hkey, _⟩, user, huser, _⟩ => by
    obtain rfl := Option.some.inj (howned.1.symm.trans hkey)
    cases hunknown.symm.trans huser
  rw [hrefreshes.keys.written strayKey.key strayKey howned] at hkept
  cases hkept

end Gateway

end SensorGateway
