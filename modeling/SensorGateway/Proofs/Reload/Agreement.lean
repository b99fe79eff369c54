import SensorGateway.Proofs.Reload.Refresh

/-!
The three reloads agree. To reload one sensor is to reload the list of this sensor, and to
reload a list of all stored sensors is to reload everything: the same sensors and users are
written in the same order and at the same instants. Only as to keys they go different ways.
-/

namespace SensorGateway

namespace Memory

theorem Keyed.among_singleton {m : Memory} (h : m.Keyed) (id : ObjectId) :
    m.sensors.among [id] = (m.sensors.table.get? id).toList := by
  rw [SensorStore.among, ← h.sensors.filter_values]
  simp [SensorStore.stored]

/-- All stored sensors are found by a list of all their identifiers. -/
theorem Keyed.among_eq_stored {m : Memory} (h : m.Keyed) {ids : List ObjectId}
    (hids : ∀ id s, m.sensors.table.get? id = some s → id ∈ ids) :
    m.sensors.among ids = m.sensors.stored := by
  rw [SensorStore.among, List.filter_eq_self]
  intro s hs
  rw [List.contains_iff_mem]
  exact hids s.id s (h.sensors.mem_values_iff.1 hs)

end Memory

/-- Two caches that hold the same sensors and users, written at the same instants, and that
bar the same sensors. -/
structure Authorization.AgreeButKeys (a b : Authorization) : Prop where
  sensors : a.sensors = b.sensors
  users : a.users = b.users
  blacklist : a.blacklist = b.blacklist

namespace Gateway

theorem reloadSensor_of_working {g : Gateway Memory} (id : ObjectId)
    (hworking : ∀ part, g.repositories.isFailing part = false) :
    let found := (g.repositories.sensors.table.get? id).map fun s =>
      (s, g.repositories.users.known [s.owner])
    let ops := Reload.opsForOne id found
    ∃ metrics, g.reloadSensor id = (.ok found.isSome, { g with
      clock := ops.foldl CacheOp.clockAfter g.clock
      cache := g.cache.run (CacheOp.timed g.clock ops)
      metrics := metrics }) := by
  intro found ops
  rw [reloadSensor, Reload.gatherOne_eq, Memory.consult_of_working hworking]
  obtain ⟨metrics, h⟩ := performAll_eq { g with repositories := g.repositories.servePages 0 } ops
  exact ⟨metrics, congrArg (Prod.mk _) h⟩

/-- What the reload of one sensor and that of the list of this sensor have in common. The
first one answers whether the second one finds the sensor, and leaves the keys alone. -/
structure OneAsList (g one list : Gateway Memory) (found : Bool) (summary : ReloadSummary) :
    Prop where
  agree : one.cache.AgreeButKeys list.cache
  sensorCount : summary.sensors = (if found then 1 else 0)
  flushed : summary.flushed = (if found then 0 else 1)
  keys : one.cache.keys = g.cache.keys

theorem exists_oneAsList {g : Gateway Memory} (hkeyed : g.repositories.Keyed)
    (hworking : ∀ part, g.repositories.isFailing part = false) (id : ObjectId) :
    ∃ found one summary list, g.reloadSensor id = (.ok found, one) ∧
      g.reloadSensors [id] = (.ok summary, list) ∧ g.OneAsList one list found summary := by
  obtain ⟨metrics, hone⟩ := reloadSensor_of_working id hworking
  obtain ⟨served, metrics', hlist⟩ := reloadSensors_of_working (List.cons_ne_nil id []) hworking
  refine ⟨_, _, _, _, hone, hlist, ?_⟩
  have hamong := hkeyed.among_singleton id
  cases hget : g.repositories.sensors.table.get? id with
  | none =>
      rw [hget] at hamong
      have hharvest : g.repositories.harvestOf [id] = ⟨[], [], []⟩ := by
        simp [Memory.harvestOf, hamong, owners, UserStore.known, KeyStore.live]
      simp only [hharvest]
      exact ⟨⟨rfl, rfl, rfl⟩, rfl, rfl, rfl⟩
  | some s =>
      rw [hget] at hamong
      have hid : s.id = id := hkeyed.sensors id s hget
      have howners : owners [s] = [s.owner] := rfl
      have hharvest : g.repositories.harvestOf [id] =
          ⟨[s], g.repositories.users.known [s.owner], (g.repositories.harvestOf [id]).keys⟩ := by
        simp only [Memory.harvestOf, hamong, Option.toList, howners]
      have hmissing : (g.repositories.harvestOf [id]).missing [id] = [] := by
        rw [hharvest]
        simp [Harvest.missing, hid]
      rw [hmissing, hharvest]
      exact ⟨⟨rfl, rfl, rfl⟩, rfl, rfl, rfl⟩

/-- What a full reload and that of a list of all stored sensors have in common. The first one
caches the keys that are bound to a sensor; of these the second one caches the same records at
the same instant, if they belong to the owner of a stored sensor. -/
structure AllAsList (g all list : Gateway Memory) : Prop where
  agree : all.cache.AgreeButKeys list.cache
  nextSweep : all.schedule.nextSweep = list.schedule.nextSweep
  allKeys : TimedMap.Merged g.repositories.BoundKey (g.clock.afterReadings 2)
    g.cache.keys all.cache.keys
  listKeys : ∀ text key, g.repositories.BoundKey text key →
    (∃ id s, g.repositories.sensors.table.get? id = some s ∧ s.owner = key.owner) →
    list.cache.keys.get? text = some ⟨key, g.clock.afterReadings 2⟩

theorem exists_allAsList {g : Gateway Memory} (hkeyed : g.repositories.Keyed)
    (hworking : ∀ part, g.repositories.isFailing part = false) {ids : List ObjectId}
    (hne : ids ≠ [])
    (hids : ∀ id, id ∈ ids ↔ ∃ s, g.repositories.sensors.table.get? id = some s) :
    ∃ summary all summary' list, g.reloadAll = (.ok summary, all) ∧
      g.reloadSensors ids = (.ok summary', list) ∧ g.AllAsList all list := by
  obtain ⟨served, metrics, hall⟩ := reloadAll_of_working hworking
  obtain ⟨served', metrics', hlist⟩ := reloadSensors_of_working hne hworking
  have hamong : g.repositories.sensors.among ids = g.repositories.sensors.stored :=
    hkeyed.among_eq_stored fun id s hs => (hids id).2 ⟨s, hs⟩
  have hmissing : (g.repositories.harvestOf ids).missing ids = [] := by
    rw [List.eq_nil_iff_forall_not_mem]
    intro id hid
    obtain ⟨hid, hnone⟩ := (Memory.mem_missing_iff hkeyed ids id).1 hid
    obtain ⟨s, hs⟩ := (hids id).1 hid
    cases hnone.symm.trans hs
  -- the two harvests differ in the keys only
  have hharvest : g.repositories.harvestOf ids =
      { g.repositories.harvest with keys := (g.repositories.harvestOf ids).keys } := by
    simp only [Memory.harvestOf, hamong, Memory.harvest]
  have hmerges := @mergesAll_of_harvest g hkeyed served metrics
  have hrefreshes := @refreshes_of_harvest g hkeyed ids served' 0 metrics'
  refine ⟨_, _, _, _, hall, hlist, ?_⟩
  constructor
  · rw [hmissing, hharvest]
    exact ⟨rfl, rfl, rfl⟩
  · rfl
  · exact hmerges.keys
  · rintro text key hbound ⟨id, s, hs, howner⟩
    have hstored : s ∈ g.repositories.sensors.among ids := by
      rw [hamong]
      exact Table.mem_values_iff.2 ⟨id, hs⟩
    exact hrefreshes.keys.written text key ⟨hbound.1, hbound.2.1, s, hstored, howner⟩

/-- The three reloads agree on sensors and users, whatever is held and stored and whatever the
size of a page: the reload of one sensor does as that of the list of this sensor, and the
reload of everything as that of a list of all stored sensors, in any order and with
repetitions. -/
structure ReloadsAgree (g : Gateway Memory) : Prop where
  one : ∀ id, ∃ found one summary list, g.reloadSensor id = (.ok found, one) ∧
    g.reloadSensors [id] = (.ok summary, list) ∧ g.OneAsList one list found summary
  all : ∀ ids, ids ≠ [] →
    (∀ id, id ∈ ids ↔ ∃ s, g.repositories.sensors.table.get? id = some s) →
    ∃ summary all summary' list, g.reloadAll = (.ok summary, all) ∧
      g.reloadSensors ids = (.ok summary', list) ∧ g.AllAsList all list

theorem reloads_agree {g : Gateway Memory} (hbuilt : g.repositories.Built)
    (hworking : ∀ part, g.repositories.isFailing part = false) : g.ReloadsAgree where
  one id := exists_oneAsList hbuilt.keyed hworking id
  all _ hne hids := exists_allAsList hbuilt.keyed hworking hne hids

def ownedId : ObjectId :=
  ⟨List.replicate 12 (UInt8.ofNat 1), rfl⟩

/-- A sensor that is gone is asked for alone, and the stored ones are listed out of order and
one of them twice. -/
theorem reloads_agree_straySample :
    straySample.repositories.Built ∧
      (∀ part, straySample.repositories.isFailing part = false) ∧
      (∃ one summary list, straySample.reloadSensor goneId = (.ok false, one) ∧
        straySample.reloadSensors [goneId] = (.ok summary, list) ∧
        straySample.OneAsList one list false summary) ∧
      ∃ summary all summary' list, straySample.reloadAll = (.ok summary, all) ∧
        straySample.reloadSensors [strayId, ownedId, strayId] = (.ok summary', list) ∧
        straySample.AllAsList all list := by
  have h : straySample.ReloadsAgree := reloads_agree built_straySample working_straySample
  refine ⟨built_straySample, working_straySample, ?_, ?_⟩
  · obtain ⟨found, one, summary, list, hone, hlist, hagree⟩ := h.one goneId
    have hgone : (straySample.reloadSensor goneId).1 = .ok false := rfl
    rw [hone] at hgone
    obtain rfl : found = false := Except.ok.inj hgone
    exact ⟨one, summary, list, hone, hlist, hagree⟩
  · refine h.all _ (List.cons_ne_nil _ _) fun id => ?_
    have hkeys : straySample.repositories.sensors.table.keys = [ownedId, strayId] := rfl
    rw [← Option.isSome_iff_exists, ← Table.contains, Table.contains_iff_mem_keys, hkeys]
    simp only [List.mem_cons, List.not_mem_nil, or_false]
    tauto

end Gateway

end SensorGateway
