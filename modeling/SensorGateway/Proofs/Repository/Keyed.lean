import SensorGateway.Proofs.Reload.Gather
import SensorGateway.Proofs.Table
import SensorGateway.Proofs.TimedMap.Entry

/-!
Records under their own identities. In a table of records a record is held under the
identity it carries itself, so the values of the table determine the table. Repositories
stay like this whatever is stored, deleted or revoked.
-/

namespace SensorGateway

namespace Table

variable {κ α : Type} [DecidableEq κ] {key : α → κ} {t : Table κ α}

/-- Every value is held under its own key. -/
def KeyedBy (key : α → κ) (t : Table κ α) : Prop :=
  ∀ k v, t.get? k = some v → key v = k

theorem keyedBy_empty : KeyedBy key empty := by
  intro k v h
  cases h

theorem KeyedBy.insert (h : KeyedBy key t) {k : κ} {v : α} (hv : key v = k) :
    KeyedBy key (t.insert k v) := by
  intro i w hw
  rw [get?_insert] at hw
  split at hw
  · rename_i hi
    obtain rfl := Option.some.inj hw
    exact hv.trans hi.symm
  · exact h i w hw

theorem KeyedBy.filter (h : KeyedBy key t) (keep : κ → α → Bool) :
    KeyedBy key (t.filter keep) := by
  intro k v hv
  rw [get?_filter, Option.filter_eq_some_iff] at hv
  exact h k v hv.1

omit [DecidableEq κ] in
theorem values_filter (t : Table κ α) (keep : α → Bool) :
    (t.filter fun _ v => keep v).values = t.values.filter keep := by
  rw [values, values, filter, List.filter_map]
  rfl

theorem mem_values_iff {v : α} : v ∈ t.values ↔ ∃ k, t.get? k = some v := by
  simp only [values, List.mem_map, get?_eq_some_iff, Prod.exists, exists_eq_right]

theorem KeyedBy.mem_values_iff (h : KeyedBy key t) {v : α} :
    v ∈ t.values ↔ t.get? (key v) = some v := by
  rw [Table.mem_values_iff]
  constructor
  · rintro ⟨k, hk⟩
    rw [h k v hk]
    exact hk
  · intro hv
    exact ⟨key v, hv⟩

theorem KeyedBy.map_values (h : KeyedBy key t) : t.values.map key = t.keys := by
  rw [values, keys, List.map_map]
  apply List.map_congr_left
  intro row hrow
  exact h row.1 row.2 (get?_eq_some_iff.2 hrow)

/-- The values with a given key: the one that is held under it, if there is one. -/
theorem KeyedBy.filter_values (h : KeyedBy key t) (k : κ) :
    (t.values.filter fun v => key v = k) = (t.get? k).toList := by
  have hmem : ∀ v ∈ t.values.filter fun v => key v = k, t.get? k = some v := by
    intro v hv
    rw [List.mem_filter, decide_eq_true_iff] at hv
    obtain ⟨hv, rfl⟩ := hv
    exact h.mem_values_iff.1 hv
  cases hk : t.get? k with
  | none =>
      rw [hk] at hmem
      exact List.eq_nil_iff_forall_not_mem.2 fun v hv => nomatch hmem v hv
  | some v =>
      have hv : v ∈ t.values.filter fun v => key v = k := by
        rw [List.mem_filter, decide_eq_true_iff, Table.mem_values_iff]
        exact ⟨⟨k, hk⟩, h k v hk⟩
      have hnodup : (t.values.filter fun v => key v = k).Nodup := by
        refine List.Nodup.filter _ (List.Nodup.of_map key ?_)
        rw [h.map_values]
        exact t.nodup_keys
      have hall : ∀ w ∈ t.values.filter fun v => key v = k, w = v := fun w hw =>
        (Option.some.inj (hk.symm.trans (hmem w hw))).symm
      -- copies of one value without duplicates are a single one
      have hcopies := List.eq_replicate_of_mem hall
      rw [hcopies, List.nodup_replicate] at hnodup
      rw [hcopies, Nat.le_antisymm hnodup (List.length_pos_of_mem hv)]
      rfl

theorem KeyedBy.lastUnder_values (h : KeyedBy key t) (k : κ) :
    lastUnder key k t.values = t.get? k := by
  rw [lastUnder, h.filter_values]
  cases t.get? k <;> rfl

end Table

namespace Memory

/-- Repositories whose contents have come about by the changes of their keepers. -/
inductive Built : Memory → Prop where
  | empty : Built {}
  | changed {m : Memory} (h : Built m) (change : Change) : Built (m.apply change)
  | served {m : Memory} (h : Built m) (n : Nat) : Built (m.servePages n)

/-- Every record is stored under the identity it carries. -/
structure Keyed (m : Memory) : Prop where
  sensors : m.sensors.table.KeyedBy SensorRecord.id
  keys : m.keys.table.KeyedBy ApiKeyRecord.key
  users : m.users.table.KeyedBy UserRecord.id

theorem Keyed.apply {m : Memory} (h : m.Keyed) (change : Change) : (m.apply change).Keyed := by
  cases change with
  | putSensor sensor => exact ⟨h.sensors.insert rfl, h.keys, h.users⟩
  | deleteSensor id => exact ⟨h.sensors.filter _, h.keys, h.users⟩
  | putKey key => exact ⟨h.sensors, h.keys.insert rfl, h.users⟩
  | revokeKey key =>
      refine ⟨h.sensors, ?_, h.users⟩
      simp only [Memory.apply, KeyStore.revoke]
      split
      · exact h.keys
      · rename_i record hrecord
        -- A revoked key keeps its text, so it is stored where it was.
        exact h.keys.insert (h.keys key record hrecord)
  | putUser user => exact ⟨h.sensors, h.keys, h.users.insert rfl⟩
  | setFailing part failing => cases part <;> exact ⟨h.sensors, h.keys, h.users⟩

theorem Built.changedAll {m : Memory} (h : m.Built) (changes : List Change) :
    (changes.foldl Memory.apply m).Built := by
  induction changes generalizing m with
  | nil => exact h
  | cons change changes ih => exact ih (h.changed change)

theorem Built.keyed {m : Memory} (h : m.Built) : m.Keyed := by
  induction h with
  | empty => exact ⟨Table.keyedBy_empty, Table.keyedBy_empty, Table.keyedBy_empty⟩
  | changed _ change ih => exact ih.apply change
  | served _ n ih => exact ⟨ih.sensors, ih.keys, ih.users⟩

end Memory

end SensorGateway
