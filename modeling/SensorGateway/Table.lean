/-!
Tables with one value under each key, in the order in which the keys were first inserted.
A table is seen through `get?`, and each operation has a lemma that says what it does to
this view.
-/

namespace SensorGateway

/-- A finite map that keeps the order of its keys. -/
structure Table (κ α : Type) where
  rows : List (κ × α)
  nodup_keys : (rows.map Prod.fst).Nodup

namespace Table

variable {κ α : Type}

def empty : Table κ α :=
  ⟨[], List.nodup_nil⟩

instance : Inhabited (Table κ α) := ⟨empty⟩

def size (t : Table κ α) : Nat :=
  t.rows.length

def keys (t : Table κ α) : List κ :=
  t.rows.map Prod.fst

def values (t : Table κ α) : List α :=
  t.rows.map Prod.snd

def filter (t : Table κ α) (keep : κ → α → Bool) : Table κ α where
  rows := t.rows.filter fun row => keep row.1 row.2
  nodup_keys := t.nodup_keys.sublist (List.filter_sublist.map _)

variable [DecidableEq κ]

def get? (t : Table κ α) (k : κ) : Option α :=
  (t.rows.find? fun row => row.1 = k).map Prod.snd

def contains (t : Table κ α) (k : κ) : Bool :=
  (t.get? k).isSome

/-- Puts a value under a key: in the place of the old one, or at the end. -/
def insert (t : Table κ α) (k : κ) (v : α) : Table κ α :=
  if h : k ∈ t.rows.map Prod.fst then
    { rows := t.rows.map fun row => if row.1 = k then (k, v) else row
      nodup_keys := by
        have : (t.rows.map fun row => if row.1 = k then (k, v) else row).map Prod.fst =
            t.rows.map Prod.fst := by
          rw [List.map_map]
          apply List.map_congr_left
          intro row _
          simp only [Function.comp_apply]
          split <;> simp_all
        rw [this]
        exact t.nodup_keys }
  else
    { rows := t.rows ++ [(k, v)]
      nodup_keys := by
        rw [List.map_append, List.nodup_append]
        refine ⟨t.nodup_keys, by simp, ?_⟩
        intro a ha b hb hab
        simp only [List.map_cons, List.map_nil, List.mem_singleton] at hb
        exact h (hb ▸ hab ▸ ha) }

def insertAll (t : Table κ α) (pairs : List (κ × α)) : Table κ α :=
  pairs.foldl (fun t pair => t.insert pair.1 pair.2) t

def erase (t : Table κ α) (k : κ) : Table κ α :=
  t.filter fun key _ => key ≠ k

theorem get?_eq_some_iff {t : Table κ α} {k : κ} {v : α} :
    t.get? k = some v ↔ (k, v) ∈ t.rows := by
  obtain ⟨rows, hnodup⟩ := t
  unfold get?
  induction rows with
  | nil => simp
  | cons row rows ih =>
    obtain ⟨k', v'⟩ := row
    simp only [List.map_cons, List.nodup_cons] at hnodup
    have ih := ih hnodup.2
    by_cases hk : k' = k
    · subst hk
      have hno : (k', v) ∉ rows := fun hm => hnodup.1 (List.mem_map.2 ⟨_, hm, rfl⟩)
      simp [hno, eq_comm]
    · simp only [List.find?_cons, hk, decide_false, List.mem_cons, Prod.mk.injEq]
      rw [ih]
      simp [Ne.symm hk]

theorem get?_eq_none_iff {t : Table κ α} {k : κ} : t.get? k = none ↔ k ∉ t.keys := by
  simp only [get?, keys, Option.map_eq_none_iff, List.find?_eq_none, List.mem_map,
    decide_eq_true_eq]
  exact ⟨fun h ⟨row, hrow, hk⟩ => h row hrow hk, fun h row hrow hk => h ⟨row, hrow, hk⟩⟩

theorem contains_iff_mem_keys {t : Table κ α} {k : κ} : t.contains k = true ↔ k ∈ t.keys := by
  rw [contains, ← Decidable.not_iff_not, ← get?_eq_none_iff]
  simp

@[simp] theorem get?_empty (k : κ) : (empty : Table κ α).get? k = none :=
  rfl

theorem get?_filter (t : Table κ α) (keep : κ → α → Bool) (k : κ) :
    (t.filter keep).get? k = (t.get? k).filter (keep k) := by
  ext v
  rw [get?_eq_some_iff, Option.filter_eq_some_iff, get?_eq_some_iff]
  simp [filter]

theorem get?_erase (t : Table κ α) (k key : κ) :
    (t.erase k).get? key = if key = k then none else t.get? key := by
  rw [erase, get?_filter]
  by_cases h : key = k
  · cases ht : t.get? key <;> simp [h, Option.filter]
  · cases ht : t.get? key <;> simp [h, Option.filter]

theorem get?_insert (t : Table κ α) (k key : κ) (v : α) :
    (t.insert k v).get? key = if key = k then some v else t.get? key := by
  ext w
  rw [get?_eq_some_iff]
  unfold insert
  split
  · -- the row of the key is replaced where it stands
    rename_i hk
    obtain ⟨row, hrow, rfl⟩ := List.mem_map.1 hk
    by_cases h : key = row.1
    · subst h
      simp only [List.mem_map, if_true, Option.some.injEq]
      constructor
      · rintro ⟨other, _, heq⟩
        split at heq
        · simp_all
        · rename_i hne
          exact absurd (congrArg Prod.fst heq) hne
      · rintro rfl
        exact ⟨row, hrow, by simp⟩
    · simp only [List.mem_map, if_neg h, get?_eq_some_iff]
      constructor
      · rintro ⟨other, hmem, heq⟩
        split at heq
        · exact absurd (congrArg Prod.fst heq).symm h
        · exact heq ▸ hmem
      · intro hmem
        exact ⟨(key, w), hmem, by simp [h]⟩
  · -- a new row comes last
    rename_i hk
    simp only [List.mem_append, List.mem_singleton, Prod.mk.injEq]
    by_cases h : key = k
    · subst h
      have hno : (key, w) ∉ t.rows := fun hm => hk (List.mem_map.2 ⟨_, hm, rfl⟩)
      simp [hno, eq_comm]
    · simp [h, get?_eq_some_iff]

omit [DecidableEq κ] in
theorem size_filter_le (t : Table κ α) (keep : κ → α → Bool) :
    (t.filter keep).size ≤ t.size :=
  List.length_filter_le _ _

end Table

end SensorGateway
