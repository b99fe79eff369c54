import Mathlib.Logic.Function.Iterate
import SensorGateway.Proofs.Gateway.Steps
import SensorGateway.Proofs.Repository.Keyed

/-!
What a full reload leaves behind. Whatever the size of a page, it merges all that the
repositories hold into the cache: the records found are written under their identities, each
kind at one instant, and every other record stays as it was.
-/

namespace SensorGateway

namespace TimedMap

variable {κ α : Type} {found : κ → α → Prop} {stamp : Nat}

/-- A map after the values found under its keys were written at an instant. -/
structure Merged [DecidableEq κ] (found : κ → α → Prop) (stamp : Nat)
    (before after : TimedMap κ α) : Prop where
  written : ∀ k v, found k v → after.get? k = some ⟨v, stamp⟩
  kept : ∀ k, (∀ v, ¬found k v) → after.get? k = before.get? k

variable [DecidableEq κ]

/-- The values of a table are written as the table holds them. -/
theorem merged_upsertMany {key : α → κ} {t : Table κ α} (hkeyed : t.KeyedBy key)
    (hfound : ∀ k v, t.get? k = some v ↔ found k v) {values : List α} (hvalues : values = t.values)
    (m : TimedMap κ α) (now : Nat) :
    Merged found now m (m.upsertMany now (values.map fun v => (key v, v))) := by
  subst hvalues
  constructor
  · intro k v hv
    rw [get?_upsertMany_map, hkeyed.lastUnder_values, (hfound k v).2 hv]
    rfl
  · intro k hno
    have hnone : t.get? k = none := by
      rw [Option.eq_none_iff_forall_ne_some]
      intro v hv
      exact hno v ((hfound k v).1 hv)
    rw [get?_upsertMany_map, hkeyed.lastUnder_values, hnone]
    rfl

end TimedMap

namespace Memory

/-- A stored user to whom one of the sensors belongs. -/
def KnownOwner (m : Memory) (sensors : List SensorRecord) (id : Uuid) (user : UserRecord) :
    Prop :=
  m.users.table.get? id = some user ∧ ∃ s ∈ sensors, s.owner = id

/-- A stored key that is not revoked and that is bound to a sensor. -/
def BoundKey (m : Memory) (text : String) (key : ApiKeyRecord) : Prop :=
  m.keys.table.get? text = some key ∧ key.revoked = false ∧ ∃ id, key.sensor = some id

def ownerTable (m : Memory) (sensors : List SensorRecord) : Table Uuid UserRecord :=
  m.users.table.filter fun _ u => (owners sensors).contains u.id

/-- The table that remains of the keys when those in force with a property are asked for. -/
def liveTable (m : Memory) (keep : ApiKeyRecord → Bool) : Table String ApiKeyRecord :=
  m.keys.table.filter fun _ k => !k.revoked && keep k

theorem Keyed.ownerTable {m : Memory} (h : m.Keyed) (sensors : List SensorRecord) :
    (m.ownerTable sensors).KeyedBy UserRecord.id :=
  h.users.filter _

theorem Keyed.liveTable {m : Memory} (h : m.Keyed) (keep : ApiKeyRecord → Bool) :
    (m.liveTable keep).KeyedBy ApiKeyRecord.key :=
  h.keys.filter _

theorem known_owners (m : Memory) (sensors : List SensorRecord) :
    m.users.known (owners sensors) = (m.ownerTable sensors).values :=
  (Table.values_filter ..).symm

/-- The keys in force are all written, as none of them is revoked. -/
theorem liveKeys_live (m : Memory) (keep : ApiKeyRecord → Bool) :
    Authorization.liveKeys (m.keys.live keep) = (m.liveTable keep).values := by
  have hlive : Authorization.liveKeys (m.keys.live keep) = m.keys.live keep := by
    rw [Authorization.liveKeys, KeyStore.live, List.filter_filter]
    congr 1
    funext k
    cases k.revoked <;> rfl
  exact hlive.trans (Table.values_filter ..).symm

theorem get?_ownerTable_iff {m : Memory} (hkeyed : m.Keyed) (sensors : List SensorRecord)
    (id : Uuid) (user : UserRecord) :
    (m.ownerTable sensors).get? id = some user ↔ m.KnownOwner sensors id user := by
  rw [ownerTable, Table.get?_filter, Option.filter_eq_some_iff, KnownOwner]
  refine and_congr_right fun hget => ?_
  rw [hkeyed.users id user hget, List.contains_iff_mem, owners, List.mem_eraseDups,
    List.mem_map]

theorem get?_liveTable_iff (m : Memory) (keep : ApiKeyRecord → Bool) (text : String)
    (key : ApiKeyRecord) :
    (m.liveTable keep).get? text = some key ↔
      m.keys.table.get? text = some key ∧ key.revoked = false ∧ keep key = true := by
  rw [liveTable, Table.get?_filter, Option.filter_eq_some_iff, Bool.and_eq_true,
    Bool.not_eq_true']

theorem get?_liveTable_isSome_iff (m : Memory) (text : String) (key : ApiKeyRecord) :
    (m.liveTable fun k => k.sensor.isSome).get? text = some key ↔ m.BoundKey text key := by
  rw [get?_liveTable_iff, BoundKey, Option.isSome_iff_exists]

end Memory

def Clock.afterReadings (clock : Clock) (n : Nat) : Nat :=
  (Clock.afterReading^[n] clock).now

namespace Gateway

/-- What a full reload does if all repositories work. The clock is read four times: for the
sensors, for the users, for the keys and for the schedule. -/
structure MergesAll (g g' : Gateway Memory) (summary : ReloadSummary) : Prop where
  sensors : TimedMap.Merged (fun id s => g.repositories.sensors.table.get? id = some s)
    (g.clock.afterReadings 0) g.cache.sensors g'.cache.sensors
  users : TimedMap.Merged (g.repositories.KnownOwner g.repositories.sensors.stored)
    (g.clock.afterReadings 1) g.cache.users g'.cache.users
  keys : TimedMap.Merged g.repositories.BoundKey
    (g.clock.afterReadings 2) g.cache.keys g'.cache.keys
  blacklist : g'.cache.blacklist = g.cache.blacklist
  nextReload : g'.schedule.nextReload =
    min (g.clock.afterReadings 3 + g.settings.reloadInterval.millis) maxWord
  nextSweep : g'.schedule.nextSweep = g.schedule.nextSweep
  buffer : g'.buffer = g.buffer
  clock : g'.clock = Clock.afterReading^[4] g.clock
  sensorCount : {id | ∃ s, g.repositories.sensors.table.get? id = some s}.encard =
    summary.sensors
  userCount : {id | ∃ u, g.repositories.KnownOwner g.repositories.sensors.stored id u}.encard =
    summary.users
  keyCount : {text | ∃ k, g.repositories.BoundKey text k}.encard = summary.keys
  flushed : summary.flushed = 0

theorem reloadAll_of_working {g : Gateway Memory}
    (hworking : ∀ part, g.repositories.isFailing part = false) :
    ∃ served metrics, g.reloadAll = (.ok (g.repositories.harvest.summary 0), { g with
      repositories := g.repositories.servePages served
      clock := Clock.afterReading^[4] g.clock
      cache := g.cache.run (CacheOp.timed g.clock g.repositories.harvest.ops)
      schedule := { g.schedule with
        nextReload := g.settings.reloadInterval.after (g.clock.afterReadings 3) }
      metrics := metrics }) := by
  rw [reloadAll, Reload.gatherAll_eq, Memory.consult_of_working hworking]
  obtain ⟨metrics, h⟩ := performAll_eq
    { g with repositories := g.repositories.servePages (g.repositories.pagesServed
      g.repositories.sensors.stored.length g.settings.effectivePageSize) }
    g.repositories.harvest.ops
  simp only [h]
  exact ⟨_, _, rfl⟩

/-- The size of a page has no bearing on a reload but for the count of pages. -/
theorem reloadAll_pageSize {g : Gateway Memory}
    (hworking : ∀ part, g.repositories.isFailing part = false) (size : Nat) :
    ∃ served, reloadAll { g with settings := { g.settings with pageSize := size } } =
      (g.reloadAll.1, { g.reloadAll.2 with
        settings := { g.settings with pageSize := size }
        repositories := g.repositories.servePages served }) := by
  have hmerged := fun settings r => performAll_setSource g settings r g.repositories.harvest.ops
  generalize g.performAll g.repositories.harvest.ops = merged at hmerged
  simp only [reloadAll, Reload.gatherAll_eq, Memory.consult_of_working hworking, hmerged]
  exact ⟨_, rfl⟩

/-- The records of the repositories, written one kind after the other. -/
theorem mergesAll_of_harvest {g : Gateway Memory} (hkeyed : g.repositories.Keyed) {served : Nat}
    {metrics : Metrics} :
    g.MergesAll { g with
      repositories := g.repositories.servePages served
      clock := Clock.afterReading^[4] g.clock
      cache := g.cache.run (CacheOp.timed g.clock g.repositories.harvest.ops)
      schedule := { g.schedule with
        nextReload := g.settings.reloadInterval.after (g.clock.afterReadings 3) }
      metrics := metrics } (g.repositories.harvest.summary 0) := by
  have husers := g.repositories.known_owners g.repositories.sensors.stored
  have hkeys : Authorization.liveKeys g.repositories.harvest.keys =
      (g.repositories.liveTable fun k => k.sensor.isSome).values :=
    g.repositories.liveKeys_live _
  have howners := Memory.get?_ownerTable_iff hkeyed g.repositories.sensors.stored
  have hbound := g.repositories.get?_liveTable_isSome_iff
  -- Users and keys are written as what a filter leaves of their tables.
  exact {
    sensors := TimedMap.merged_upsertMany hkeyed.sensors (fun _ _ => Iff.rfl) rfl _ _
    users := TimedMap.merged_upsertMany (hkeyed.ownerTable _) howners husers _ _
    keys := TimedMap.merged_upsertMany (hkeyed.liveTable _) hbound hkeys _ _
    blacklist := rfl
    nextReload := rfl
    nextSweep := rfl
    buffer := rfl
    clock := rfl
    sensorCount := Table.encard_found (fun _ _ => Iff.rfl) rfl
    userCount := Table.encard_found howners husers
    keyCount := Table.encard_found hbound hkeys
    flushed := rfl }

/-- A full reload of working repositories succeeds and merges all that they hold into the
cache, and it does the same whatever the size of a page. -/
theorem reloadAll_merges {g : Gateway Memory} (hbuilt : g.repositories.Built)
    (hworking : ∀ part, g.repositories.isFailing part = false) :
    ∃ summary g', g.reloadAll = (.ok summary, g') ∧ g.MergesAll g' summary ∧
      ∀ size, ∃ served, reloadAll { g with settings := { g.settings with pageSize := size } } =
        (.ok summary, { g' with
          settings := { g.settings with pageSize := size }
          repositories := g.repositories.servePages served }) := by
  obtain ⟨served, metrics, h⟩ := reloadAll_of_working hworking
  refine ⟨_, _, h, mergesAll_of_harvest hbuilt.keyed, fun size => ?_⟩
  obtain ⟨served', h'⟩ := reloadAll_pageSize hworking size
  rw [h] at h'
  exact ⟨served', h'⟩

/-- A gateway whose pages hold a single sensor. One of its two sensors has a known owner. The
clock moves unevenly, and once not at all, between the readings of the first reload. -/
def pagingSample : Gateway Memory :=
  let id (n : UInt8) : ObjectId := ⟨List.replicate 12 n, rfl⟩
  let owner (n : UInt8) : Uuid := ⟨List.replicate 16 n, rfl⟩
  .start { clock := { time := 5, steps := [1, 2, 0, 7] } } {} { pageSize := 1 } {}
    ([.putSensor { id := id 1, owner := owner 1 }, .putSensor { id := id 2, owner := owner 2 },
      .putUser { id := owner 1 },
      .putKey { key := "k", owner := owner 1, sensor := some (id 2) }].foldl Memory.apply {})

theorem reloadAll_merges_pagingSample :
    pagingSample.repositories.Built ∧
      (∀ part, pagingSample.repositories.isFailing part = false) ∧
      ∃ summary g', pagingSample.reloadAll = (.ok summary, g') ∧
        pagingSample.MergesAll g' summary := by
  have hbuilt : pagingSample.repositories.Built := Memory.Built.empty.changedAll _
  have hworking : ∀ part, pagingSample.repositories.isFailing part = false := by
    intro part
    cases part <;> rfl
  obtain ⟨summary, g', h, hmerges, -⟩ := reloadAll_merges hbuilt hworking
  exact ⟨hbuilt, hworking, summary, g', h, hmerges⟩

end Gateway

end SensorGateway
