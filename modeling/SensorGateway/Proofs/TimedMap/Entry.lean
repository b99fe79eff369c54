import SensorGateway.Proofs.Runs
import SensorGateway.TimedMap

/-!
A timed map seen one entry at a time. Whatever is done to a map does one of four things to
the entry under a key: it keeps it, writes it, drops it, or drops it if it is too old.
Operations on maps are described by the `EntryOp` they amount to under each key.
-/

namespace SensorGateway

section LastUnder

variable {κ α : Type} [DecidableEq κ]

/-- The last element of a list that has a given key. -/
def lastUnder (key : α → κ) (k : κ) (xs : List α) : Option α :=
  (xs.filter fun x => key x = k).getLast?

theorem lastUnder_cons (key : α → κ) (k : κ) (x : α) (xs : List α) :
    lastUnder key k (x :: xs) =
      (lastUnder key k xs).or (if key x = k then some x else none) := by
  unfold lastUnder
  by_cases h : key x = k
  · rw [List.filter_cons_of_pos (by simpa using h), List.getLast?_cons, if_pos h]
    cases (xs.filter fun x => decide (key x = k)).getLast? <;> rfl
  · rw [List.filter_cons_of_neg (by simpa using h), if_neg h, Option.or_none]

theorem lastUnder_map (key : α → κ) (k : κ) (xs : List α) :
    lastUnder Prod.fst k (xs.map fun x => (key x, x)) =
      (lastUnder key k xs).map fun x => (key x, x) := by
  rw [lastUnder, lastUnder, List.filter_map, List.getLast?_map]
  rfl

theorem mem_of_lastUnder_eq_some {key : α → κ} {k : κ} {xs : List α} {x : α}
    (h : lastUnder key k xs = some x) : x ∈ xs ∧ key x = k := by
  have hmem := List.mem_of_getLast? h
  rwa [List.mem_filter, decide_eq_true_iff] at hmem

theorem exists_lastUnder_of_mem {key : α → κ} {k : κ} {x : α} {xs : List α} (hx : x ∈ xs)
    (hkey : key x = k) : ∃ y, lastUnder key k xs = some y := by
  have hmem : x ∈ xs.filter fun y => key y = k := by simp [hx, hkey]
  exact ⟨_, List.getLast?_eq_some_getLast (List.ne_nil_of_mem hmem)⟩

end LastUnder

inductive EntryOp (α : Type) where
  | keep
  | write (value : α)
  | drop
  /-- Drops the entry if its age is beyond a bound. -/
  | sweep (maxAge : Span)

namespace EntryOp

variable {α : Type}

def writeIf : Option α → EntryOp α
  | none => .keep
  | some value => .write value

theorem writeIf_eq_write_iff {found : Option α} {value : α} :
    writeIf found = .write value ↔ found = some value := by
  cases found <;> simp [writeIf]

def apply (now : Nat) : EntryOp α → Option (Stamped α) → Option (Stamped α)
  | .keep, entry => entry
  | .write value, _ => some ⟨value, now⟩
  | .drop, _ => none
  | .sweep maxAge, entry => entry.filter fun e => e.isFresh now maxAge.millis

/-- Whether an operation at the instant `now` leaves an entry alone that was written at the
instant `stamp`. -/
def Spares (stamp now : Nat) : EntryOp α → Prop
  | .keep => True
  | .write _ => False
  | .drop => False
  | .sweep maxAge => now - stamp ≤ maxAge.millis

/-- After an operation there is a certain entry exactly if the operation wrote it or spared
it. -/
theorem apply_eq_some_iff {op : EntryOp α} {now stamp : Nat} {value : α}
    {entry : Option (Stamped α)} :
    op.apply now entry = some ⟨value, stamp⟩ ↔
      (op = .write value ∧ now = stamp) ∨
        op.Spares stamp now ∧ entry = some ⟨value, stamp⟩ := by
  cases op with
  | keep => simp [apply, Spares]
  | write v => simp [apply, Spares]
  | drop => simp [apply, Spares]
  | sweep maxAge =>
      have hfresh : (⟨value, stamp⟩ : Stamped α).isFresh now maxAge.millis = true ↔
          now - stamp ≤ maxAge.millis := decide_eq_true_iff
      simp only [apply, Spares, Option.filter_eq_some_iff, hfresh, reduceCtorEq, false_and,
        false_or]
      exact and_comm

end EntryOp

namespace TimedMap

variable {κ α : Type} [DecidableEq κ]

/-- Several writings amount to one of the last value for the key. -/
theorem get?_upsertMany (m : TimedMap κ α) (now : Nat) (pairs : List (κ × α)) (k : κ) :
    (m.upsertMany now pairs).get? k =
      (EntryOp.writeIf ((lastUnder Prod.fst k pairs).map Prod.snd)).apply now (m.get? k) := by
  induction pairs generalizing m with
  | nil => rfl
  | cons pair pairs ih =>
      have hstep : m.upsertMany now (pair :: pairs) =
          (m.upsert now pair.1 pair.2).upsertMany now pairs := rfl
      rw [hstep, ih, get?_upsert, lastUnder_cons]
      cases lastUnder Prod.fst k pairs with
      | some last => rfl
      | none =>
          by_cases h : k = pair.1
          · simp [EntryOp.writeIf, EntryOp.apply, h]
          · simp [EntryOp.writeIf, EntryOp.apply, h, Ne.symm h]

/-- Values written under a key of their own. -/
theorem get?_upsertMany_map (m : TimedMap κ α) (now : Nat) (key : α → κ) (values : List α)
    (k : κ) :
    (m.upsertMany now (values.map fun v => (key v, v))).get? k =
      (EntryOp.writeIf (lastUnder key k values)).apply now (m.get? k) := by
  rw [get?_upsertMany, lastUnder_map, Option.map_map]
  exact congrArg (fun o => (EntryOp.writeIf o).apply now (m.get? k)) Option.map_id'

theorem lookup_eq_some_iff {m : TimedMap κ α} {timeout : Span} {k : κ} {tp : Nat} {v : α} :
    m.lookup timeout k tp = some v ↔
      ∃ stamp, m.get? k = some ⟨v, stamp⟩ ∧ tp - stamp ≤ timeout.millis := by
  rw [lookup, Option.map_eq_some_iff]
  constructor
  · rintro ⟨⟨value, stamp⟩, h, rfl⟩
    obtain ⟨hget, hfresh⟩ := Option.filter_eq_some_iff.1 h
    exact ⟨stamp, hget, of_decide_eq_true hfresh⟩
  · rintro ⟨stamp, hget, hage⟩
    exact ⟨⟨v, stamp⟩, Option.filter_eq_some_iff.2 ⟨hget, decide_eq_true hage⟩, rfl⟩

theorem contains_iff_exists_lookup {m : TimedMap κ α} {timeout : Span} {k : κ} {tp : Nat} :
    m.contains timeout k tp = true ↔ ∃ v, m.lookup timeout k tp = some v := by
  rw [contains_eq_isSome_lookup, Option.isSome_iff_exists]

end TimedMap

end SensorGateway
