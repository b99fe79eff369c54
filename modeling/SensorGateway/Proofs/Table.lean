import Mathlib.Data.Set.Card
import SensorGateway.Table

/-!
The keys of a table: which ones there are after something was inserted or erased, and how
many there are, said of the set of them.
-/

namespace SensorGateway

namespace Table

variable {κ α : Type}

theorem size_filter_add_size_filter_not (t : Table κ α) (keep : κ → α → Bool) :
    (t.filter keep).size + (t.filter fun k v => !keep k v).size = t.size := by
  simp only [size, filter]
  exact (List.length_eq_length_filter_add fun row : κ × α => keep row.1 row.2).symm

variable [DecidableEq κ]

/-- A key that is there keeps its place, a new one comes last. -/
theorem keys_insert (t : Table κ α) (k : κ) (v : α) :
    (t.insert k v).keys = if t.contains k then t.keys else t.keys ++ [k] := by
  unfold insert
  split
  · rename_i h
    rw [if_pos (contains_iff_mem_keys.2 h), keys, keys, List.map_map]
    refine List.map_congr_left fun row _ => ?_
    simp only [Function.comp_apply]
    split <;> simp_all
  · rename_i h
    rw [if_neg fun hc => h (contains_iff_mem_keys.1 hc)]
    simp [keys]

theorem keys_erase (t : Table κ α) (k : κ) : (t.erase k).keys = t.keys.filter (· ≠ k) := by
  rw [keys, keys, erase, filter, List.filter_map]
  rfl

/-- Erasing takes away one key if it is there. -/
theorem size_erase (t : Table κ α) (k : κ) :
    (t.erase k).size = if t.contains k then t.size - 1 else t.size := by
  have hkeys : (t.erase k).keys = t.keys.erase k := by
    have hnodup : t.keys.Nodup := t.nodup_keys
    rw [keys_erase, hnodup.erase_eq_filter]
    exact List.filter_congr fun i _ => by simp [bne, beq_eq_decide]
  have hlength : ∀ s : Table κ α, s.size = s.keys.length := fun s =>
    (List.length_map Prod.fst).symm
  simp only [hlength, hkeys, List.length_erase, contains_iff_mem_keys]

theorem size_pos_of_contains {t : Table κ α} {k : κ} (h : t.contains k = true) :
    0 < t.size := by
  have hmem : k ∈ t.keys := contains_iff_mem_keys.1 h
  rw [size, ← List.length_map Prod.fst]
  exact List.length_pos_of_mem hmem

theorem encard_keys (t : Table κ α) : {k | ∃ v, t.get? k = some v}.encard = t.size := by
  have hset : {k | ∃ v, t.get? k = some v} = (t.keys.toFinset : Set κ) := by
    ext k
    show (∃ v, t.get? k = some v) ↔ k ∈ (t.keys.toFinset : Set κ)
    rw [Finset.mem_coe, List.mem_toFinset, ← contains_iff_mem_keys, contains,
      Option.isSome_iff_exists]
  have hnodup : t.keys.Nodup := t.nodup_keys
  rw [hset, Set.encard_coe_eq_coe_finsetCard, List.toFinset_card_of_nodup hnodup, keys,
    List.length_map, size]

/-- There are as many keys as values in a list of all of them. -/
theorem encard_found {t : Table κ α} {found : κ → α → Prop}
    (hfound : ∀ k v, t.get? k = some v ↔ found k v) {values : List α}
    (hvalues : values = t.values) : {k | ∃ v, found k v}.encard = values.length := by
  have hlength : t.values.length = t.size := List.length_map _
  simp only [hvalues, hlength, ← t.encard_keys, hfound]

def dropped (t : Table κ α) (keep : κ → α → Bool) : Set κ :=
  {k | (∃ v, t.get? k = some v) ∧ (t.filter keep).get? k = none}

theorem mem_dropped_iff {t : Table κ α} {keep : κ → α → Bool} {k : κ} :
    k ∈ t.dropped keep ↔ ∃ v, (t.filter fun k v => !keep k v).get? k = some v := by
  show (∃ v, t.get? k = some v) ∧ (t.filter keep).get? k = none ↔ _
  simp only [get?_filter]
  cases t.get? k with
  | none => simp
  | some v => cases h : keep k v <;> simp [h]

theorem encard_dropped (t : Table κ α) (keep : κ → α → Bool) :
    (t.dropped keep).encard = (t.size - (t.filter keep).size : Nat) := by
  have hset : t.dropped keep = {k | ∃ v, (t.filter fun k v => !keep k v).get? k = some v} :=
    Set.ext fun k => mem_dropped_iff
  have hsize := t.size_filter_add_size_filter_not keep
  rw [hset, encard_keys, ← hsize, Nat.add_sub_cancel_left]

end Table

end SensorGateway
