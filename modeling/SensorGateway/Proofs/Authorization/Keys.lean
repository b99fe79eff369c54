import SensorGateway.Proofs.Authorization.History

/-!
Which keys are served after a history. An operation that lists records of a key writes the
last one that is not revoked and passes over the others. So no revoked record is ever served;
but a revoked record does not drop the live one that was written before it, and
`revoked_key_still_served` is a history in which the key goes on being served.
-/

namespace SensorGateway

/-- The record that an operation lists for a key, revoked or not; of several the last one. -/
def CacheOp.listedKey? (key : String) : CacheOp → Option ApiKeyRecord
  | .appendKeys keys => lastUnder ApiKeyRecord.key key keys
  | _ => none

/-- Whether an operation has to do with keys only, or with all records. -/
def CacheOp.ConcernsKeys : CacheOp → Prop
  | .appendKeys _ | .flushKey _ | .cleanup | .cleanupFor _ | .clear => True
  | _ => False

/-- The last operation that lists records of a key lists a revoked one last. -/
def RevokedLast (history : List (Nat × CacheOp)) (key : String) : Prop :=
  SetLast (fun e => ∃ record, e.2.listedKey? key = some record ∧ record.revoked = true)
    (fun e => e.2.listedKey? key = none) history

/-- The last operation that wrote a record of a key wrote `record` at the instant `stamp`, and
none of the operations since then dropped it. -/
def HoldsKey (timeout : Span) (history : List (Nat × CacheOp)) (key : String)
    (record : ApiKeyRecord) (stamp : Nat) : Prop :=
  SetLast (fun e => RecordKind.keys.onEntry timeout key e.2 = .write record ∧ e.1 = stamp)
    (fun e => (RecordKind.keys.onEntry timeout key e.2).Spares stamp e.1) history

/-- Only a live record of the key itself is written. -/
theorem live_of_onEntry_keys_eq_write {timeout : Span} {key : String} {op : CacheOp}
    {record : ApiKeyRecord} (h : RecordKind.keys.onEntry timeout key op = .write record) :
    record.key = key ∧ record.revoked = false := by
  obtain ⟨live, happend, hmem, hkey⟩ := RecordOp.exists_of_onEntry_eq_write h
  obtain ⟨keys, -, rfl⟩ := CacheOp.onKeys_eq_append happend
  rw [Authorization.liveKeys, List.mem_filter, Bool.not_eq_true'] at hmem
  exact ⟨hkey, hmem.2⟩

theorem HoldsKey.live {timeout : Span} {history : List (Nat × CacheOp)} {key : String}
    {record : ApiKeyRecord} {stamp : Nat} (h : HoldsKey timeout history key record stamp) :
    record.key = key ∧ record.revoked = false := by
  obtain ⟨before, e, after, -, ⟨hwrite, -⟩, -⟩ := h
  exact live_of_onEntry_keys_eq_write hwrite

namespace Authorization

theorem keys_run_eq_some_iff (timeout : Span) (history : List (Nat × CacheOp)) (key : String)
    (record : ApiKeyRecord) (stamp : Nat) :
    (run { timeout := timeout } history).keys.get? key = some ⟨record, stamp⟩ ↔
      HoldsKey timeout history key record stamp :=
  held_run_eq_some_iff RecordKind.keys timeout history key record stamp

/-- A key is served exactly if a live record of it is held that is not too old. So whatever was
revoked, the key is not served at any instant exactly if no live record of it is held. -/
theorem getKey_run_iff (timeout : Span) (history : List (Nat × CacheOp)) (key : String) :
    let a := run { timeout := timeout } history
    (∀ tp record, a.getKey key tp = some record ↔
      ∃ stamp, HoldsKey timeout history key record stamp ∧ tp - stamp ≤ timeout.millis) ∧
    (∀ tp record, a.getKey key tp = some record → record.key = key ∧ record.revoked = false) ∧
    ((∀ tp, a.getKey key tp = none) ↔
      ¬∃ record stamp, HoldsKey timeout history key record stamp) := by
  intro a
  have hserved : ∀ tp record, a.getKey key tp = some record ↔
      ∃ stamp, HoldsKey timeout history key record stamp ∧ tp - stamp ≤ timeout.millis := by
    intro tp record
    rw [getKey, TimedMap.lookup_eq_some_iff, timeout_run]
    simp only [a, keys_run_eq_some_iff]
  refine ⟨hserved, ?_, ?_⟩
  · intro tp record h
    obtain ⟨stamp, hheld, -⟩ := (hserved tp record).1 h
    exact hheld.live
  · constructor
    · rintro hnone ⟨record, stamp, hheld⟩
      -- as of its own stamp a record is fresh, whatever the timeout
      have h := (hserved stamp record).2 ⟨stamp, hheld, by omega⟩
      rw [hnone stamp] at h
      cases h
    · intro hno tp
      rw [Option.eq_none_iff_forall_ne_some]
      intro record h
      obtain ⟨stamp, hheld, -⟩ := (hserved tp record).1 h
      exact hno ⟨record, stamp, hheld⟩

/-- A live record of a key is cached, and then the key is revoked. -/
theorem revoked_key_still_served :
    ¬∀ (timeout : Span) (history : List (Nat × CacheOp)) (key : String) (tp : Nat),
      (∀ e ∈ history, e.2.ConcernsKeys) → RevokedLast history key →
        (run { timeout := timeout } history).getKey key tp = none := by
  intro h
  let live : ApiKeyRecord := { key := "k", owner := ⟨List.replicate 16 1, rfl⟩ }
  let revoked : ApiKeyRecord := { live with revoked := true }
  have hnone := h (.ofSeconds 360) [(0, .appendKeys [live]), (0, .appendKeys [revoked])] "k" 0
    (by simp [CacheOp.ConcernsKeys])
    ⟨[(0, .appendKeys [live])], (0, .appendKeys [revoked]), [], rfl, ⟨revoked, by decide, rfl⟩,
      by simp⟩
  revert hnone
  decide

end Authorization

end SensorGateway
