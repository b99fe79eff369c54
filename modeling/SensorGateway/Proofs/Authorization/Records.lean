import SensorGateway.Proofs.Authorization.Keys
import SensorGateway.Proofs.Table

/-!
Where the records held come from. Whatever was done, a record is held under the identity it
carries itself, and it is one of those that some append listed at the instant of its stamp.
Revoked keys are never held. So looking up an identity finds no record of another one.
-/

namespace SensorGateway

/-- What a map holds of the records that appends listed in a history, and how many of them. -/
structure TimedMap.Keeps {κ α : Type} [DecidableEq κ] (m : TimedMap κ α) (identity : α → κ)
    (append : List α → CacheOp) (history : List (Nat × CacheOp)) (count : Nat) : Prop where
  distinct : m.table.keys.Nodup
  own : ∀ k record stamp, m.get? k = some ⟨record, stamp⟩ → identity record = k
  appended : ∀ k record stamp, m.get? k = some ⟨record, stamp⟩ →
    ∃ listed, (stamp, append listed) ∈ history ∧ record ∈ listed
  count : {k | ∃ entry, m.get? k = some entry}.encard = count

namespace TimedMap

variable {κ α : Type} [DecidableEq κ] {m : TimedMap κ α} {identity : α → κ}
  {append : List α → CacheOp} {history : List (Nat × CacheOp)}

theorem keeps_of_listed (h : ∀ k record stamp, m.get? k = some ⟨record, stamp⟩ →
    ∃ listed, (stamp, append listed) ∈ history ∧ record ∈ listed ∧ identity record = k) :
    m.Keeps identity append history m.size where
  distinct := m.table.nodup_keys
  own k record stamp hget := by
    obtain ⟨-, -, -, hidentity⟩ := h k record stamp hget
    exact hidentity
  appended k record stamp hget := by
    obtain ⟨listed, happend, hmem, -⟩ := h k record stamp hget
    exact ⟨listed, happend, hmem⟩
  count := m.table.encard_keys

theorem Keeps.identity_of_lookup {count : Nat} (h : m.Keeps identity append history count)
    {timeout : Span} {k : κ} {tp : Nat} {record : α}
    (hlookup : m.lookup timeout k tp = some record) : identity record = k := by
  obtain ⟨stamp, hget, -⟩ := lookup_eq_some_iff.1 hlookup
  exact h.own k record stamp hget

end TimedMap

namespace Authorization

theorem keeps_run {κ α : Type} [DecidableEq κ] (kind : RecordKind κ α) (timeout : Span)
    (history : List (Nat × CacheOp)) :
    (kind.held (run { timeout := timeout } history)).Keeps kind.identity kind.append history
      (kind.held (run { timeout := timeout } history)).size := by
  refine TimedMap.keeps_of_listed fun k record stamp h => ?_
  obtain ⟨before, ⟨now, op⟩, after, rfl, ⟨hop, rfl⟩, -⟩ :=
    (held_run_eq_some_iff kind timeout history k record stamp).1 h
  obtain ⟨records, happend, hmem, hidentity⟩ := RecordOp.exists_of_onEntry_eq_write hop
  obtain ⟨listed, rfl, hlisted⟩ := kind.view_append happend
  exact ⟨listed, by simp, hlisted hmem, hidentity⟩

/-- The records held after a history and the barred sensors, what is counted of them, and what
they are looked up for. -/
structure KeepsRecords (a : Authorization) (history : List (Nat × CacheOp)) : Prop where
  sensors : a.sensors.Keeps SensorRecord.id .appendSensors history a.stats.sensors
  users : a.users.Keeps UserRecord.id .appendUsers history a.stats.users
  keys : a.keys.Keeps ApiKeyRecord.key .appendKeys history a.stats.keys
  live : ∀ key record stamp, a.keys.get? key = some ⟨record, stamp⟩ → record.revoked = false
  barred : {id | a.isBlacklisted id = true}.encard = a.stats.blacklisted
  getSensor : ∀ id tp record, a.getSensor id tp = some record → record.id = id
  getUser : ∀ id tp record, a.getUser id tp = some record → record.id = id
  getKey : ∀ key tp record, a.getKey key tp = some record →
    record.key = key ∧ record.revoked = false

theorem encard_isBlacklisted (a : Authorization) :
    {id | a.isBlacklisted id = true}.encard = a.blacklist.size := by
  simp only [isBlacklisted, Table.contains, Option.isSome_iff_exists, Table.encard_keys]

theorem keepsRecords_run (timeout : Span) (history : List (Nat × CacheOp)) :
    (run { timeout := timeout } history).KeepsRecords history := by
  have hsensors := keeps_run RecordKind.sensors timeout history
  have husers := keeps_run RecordKind.users timeout history
  have hkeys := keeps_run RecordKind.keys timeout history
  have hlive : ∀ key record stamp,
      (run { timeout := timeout } history).keys.get? key = some ⟨record, stamp⟩ →
        record.revoked = false := by
    intro key record stamp h
    exact ((keys_run_eq_some_iff timeout history key record stamp).1 h).live.2
  refine ⟨hsensors, husers, hkeys, hlive, encard_isBlacklisted _, ?_, ?_, ?_⟩
  · intro id tp record h
    exact hsensors.identity_of_lookup h
  · intro id tp record h
    exact husers.identity_of_lookup h
  · intro key tp record h
    obtain ⟨stamp, hget, -⟩ := TimedMap.lookup_eq_some_iff.1 h
    exact ⟨hkeys.own key record stamp hget, hlive key record stamp hget⟩

end Authorization

end SensorGateway
