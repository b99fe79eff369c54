import SensorGateway.Proofs.Table
import SensorGateway.Proofs.TimedMap.Entry
import SensorGateway.TimedCache

/-!
What a cache holds after any run: under each key the last value that was written there, with
the reading of the clock at that moment, unless something done since then dropped it. Sizes,
look-ups and the counts in the answers are all told by this.
-/

namespace SensorGateway

namespace TimedCache

variable {κ α : Type} [DecidableEq κ]

namespace Action

/-- The value that an action writes under a key; of several the last one. -/
def written? (k : κ) : Action κ α → Option α
  | .upsert key v => if key = k then some v else none
  | .upsertMany pairs => (lastUnder Prod.fst k pairs).map Prod.snd
  | _ => none

def Drops (k : κ) (stamp : Nat) : Action κ α → Prop
  | .remove key => key = k
  | .clear => True
  | .evict maxAge tp => maxAge.millis < tp - stamp
  | _ => False

def onEntry (k : κ) : Action κ α → EntryOp α
  | .upsert key v => if key = k then .write v else .keep
  | .upsertMany pairs => .writeIf ((lastUnder Prod.fst k pairs).map Prod.snd)
  | .remove key => if key = k then .drop else .keep
  | .evict maxAge _ => .sweep maxAge
  | .clear => .drop
  | _ => .keep

/-- The instant as of which an action is carried out: that of the clock, unless it names
another one. -/
def instant (now : Nat) : Action κ α → Nat
  | .evict _ tp => tp
  | _ => now

theorem onEntry_eq_write_iff {k : κ} {action : Action κ α} {v : α} :
    action.onEntry k = .write v ↔ action.written? k = some v := by
  cases action with
  | upsert key value =>
      simp only [onEntry, written?]
      split <;> simp
  | upsertMany pairs =>
      simp only [onEntry, written?]
      cases (lastUnder Prod.fst k pairs).map Prod.snd <;> simp [EntryOp.writeIf]
  | remove key =>
      simp only [onEntry, written?]
      split <;> simp
  | _ => simp [onEntry, written?]

theorem spares_onEntry_iff {k : κ} {action : Action κ α} {stamp now : Nat} :
    (action.onEntry k).Spares stamp (action.instant now) ↔
      action.written? k = none ∧ ¬action.Drops k stamp := by
  cases action with
  | upsert key value =>
      simp only [onEntry, written?, Drops]
      split <;> simp [EntryOp.Spares]
  | upsertMany pairs =>
      simp only [onEntry, written?, Drops]
      cases (lastUnder Prod.fst k pairs).map Prod.snd <;> simp [EntryOp.writeIf, EntryOp.Spares]
  | remove key =>
      simp only [onEntry, written?, Drops]
      split <;> simp [EntryOp.Spares, *]
  | _ => simp [onEntry, written?, Drops, instant, EntryOp.Spares]

/-- Only an action that is carried out as of the time of the clock writes. -/
theorem instant_of_written {k : κ} {action : Action κ α} {v : α}
    (h : action.written? k = some v) (now : Nat) : action.instant now = now := by
  cases action with
  | evict maxAge tp => cases h
  | _ => rfl

end Action

/-! ### Histories -/

theorem get?_step (c : TimedCache κ α) (action : Action κ α) (k : κ) :
    (c.step action).2.map.get? k =
      (action.onEntry k).apply (action.instant c.clock.now) (c.map.get? k) := by
  cases action with
  | upsert key v =>
      simp only [step, TimedMap.get?_upsert, Action.onEntry]
      by_cases h : key = k
      · simp [h, EntryOp.apply, Action.instant]
      · simp [h, Ne.symm h, EntryOp.apply]
  | upsertMany pairs => exact TimedMap.get?_upsertMany ..
  | remove key =>
      simp only [step, TimedMap.get?_remove, Action.onEntry]
      by_cases h : key = k
      · simp [h, EntryOp.apply]
      · simp [h, Ne.symm h, EntryOp.apply]
  | evict maxAge tp => exact TimedMap.get?_evict ..
  | _ => rfl

/-- After an action there is a certain entry exactly if the action wrote it, or it was there
and the action neither wrote another one nor dropped it. -/
theorem get?_step_eq_some_iff {c : TimedCache κ α} {action : Action κ α} {k : κ} {v : α}
    {stamp : Nat} :
    (c.step action).2.map.get? k = some ⟨v, stamp⟩ ↔
      (c.clock.now = stamp ∧ action.written? k = some v) ∨
        (action.written? k = none ∧ ¬action.Drops k stamp) ∧
          c.map.get? k = some ⟨v, stamp⟩ := by
  rw [get?_step, EntryOp.apply_eq_some_iff, Action.onEntry_eq_write_iff,
    Action.spares_onEntry_iff, and_comm (a := c.clock.now = stamp)]
  refine or_congr_left (and_congr_right fun hwritten => ?_)
  rw [Action.instant_of_written hwritten]

/-- The actions of a run, each with what the clock shows when it is carried out. -/
def history (c : TimedCache κ α) (actions : List (Action κ α)) : List (Nat × Action κ α) :=
  noteAlong (fun c action => (c.step action).2) (fun c action => [(c.clock.now, action)]) c
    actions

theorem history_cons (c : TimedCache κ α) (action : Action κ α) (actions : List (Action κ α)) :
    c.history (action :: actions) = (c.clock.now, action) :: (c.step action).2.history actions :=
  rfl

/-- The last action of a run that writes under a key writes this value and reads this instant,
and none of the actions since then drops it. -/
def Holds (c : TimedCache κ α) (actions : List (Action κ α)) (k : κ) (v : α) (stamp : Nat) :
    Prop :=
  SetLast (fun e => e.1 = stamp ∧ e.2.written? k = some v)
    (fun e => e.2.written? k = none ∧ ¬e.2.Drops k stamp) (c.history actions)

theorem get?_run_eq_some_iff (c : TimedCache κ α) (actions : List (Action κ α)) (k : κ) (v : α)
    (stamp : Nat) :
    (c.run actions).map.get? k = some ⟨v, stamp⟩ ↔
      c.Holds actions k v stamp ∨
        (∀ e ∈ c.history actions, e.2.written? k = none ∧ ¬e.2.Drops k stamp) ∧
          c.map.get? k = some ⟨v, stamp⟩ := by
  induction actions generalizing c with
  | nil => simp [run, history, noteAlong, Holds, not_setLast_nil]
  | cons action actions ih =>
      have hrun : c.run (action :: actions) = (c.step action).2.run actions := rfl
      rw [hrun, ih, get?_step_eq_some_iff, Holds, Holds, history_cons, setLast_cons,
        List.forall_mem_cons]
      tauto

/-- As long as nothing is written under a key, nothing is found there that was not there. -/
theorem get?_run_eq_none {c : TimedCache κ α} {k : κ} (h : c.map.get? k = none)
    {actions : List (Action κ α)} (hunwritten : ∀ action ∈ actions, action.written? k = none) :
    (c.run actions).map.get? k = none := by
  induction actions generalizing c with
  | nil => exact h
  | cons action actions ih =>
      obtain ⟨hfirst, hrest⟩ := List.forall_mem_cons.1 hunwritten
      refine ih ?_ hrest
      rw [Option.eq_none_iff_forall_ne_some]
      rintro ⟨v, stamp⟩ hsome
      rcases get?_step_eq_some_iff.1 hsome with ⟨-, hwritten⟩ | ⟨-, hbefore⟩
      · cases hfirst.symm.trans hwritten
      · cases h.symm.trans hbefore

theorem timeout_step (c : TimedCache κ α) (action : Action κ α) :
    (c.step action).2.timeout = c.timeout := by
  cases action <;> rfl

theorem timeout_run (c : TimedCache κ α) (actions : List (Action κ α)) :
    (c.run actions).timeout = c.timeout := by
  induction actions generalizing c with
  | nil => rfl
  | cons action actions ih => exact (ih _).trans (timeout_step c action)

/-! ### Answers -/

/-- Look-ups find what is held as long as it is not too old. Whatever is found as of an instant
is found as of every earlier one. -/
structure Serves (c : TimedCache κ α) (held : κ → α → Nat → Prop) : Prop where
  lookup : ∀ k tp v, (c.step (.lookup k tp)).1 = .found (some v) ↔
    ∃ stamp, held k v stamp ∧ tp - stamp ≤ c.timeout.millis
  contains : ∀ k tp, (c.step (.contains k tp)).1 = .flag true ↔
    ∃ v, (c.step (.lookup k tp)).1 = .found (some v)
  earlier : ∀ k v tp tp', (c.step (.lookup k tp)).1 = .found (some v) → tp' ≤ tp →
    (c.step (.lookup k tp')).1 = .found (some v)

theorem step_lookup_eq_iff {c : TimedCache κ α} {k : κ} {tp : Nat} {v : α} :
    (c.step (.lookup k tp)).1 = .found (some v) ↔
      ∃ stamp, c.map.get? k = some ⟨v, stamp⟩ ∧ tp - stamp ≤ c.timeout.millis := by
  rw [step, Reply.found.injEq, TimedMap.lookup_eq_some_iff]

theorem answers_of_get?_eq_none {c : TimedCache κ α} {k : κ} (h : c.map.get? k = none)
    (tp : Nat) :
    (c.step (.lookup k tp)).1 = .found none ∧ (c.step (.contains k tp)).1 = .flag false := by
  simp only [step, TimedMap.contains_eq_isSome_lookup, TimedMap.lookup, h]
  exact ⟨rfl, rfl⟩

theorem serves {c : TimedCache κ α} {held : κ → α → Nat → Prop}
    (hheld : ∀ k v stamp, c.map.get? k = some ⟨v, stamp⟩ ↔ held k v stamp) :
    c.Serves held where
  lookup k tp v := by
    simp only [step_lookup_eq_iff, hheld]
  contains k tp := by
    simp only [step, Reply.flag.injEq, Reply.found.injEq]
    exact TimedMap.contains_iff_exists_lookup
  earlier k v tp tp' hfound hle := by
    obtain ⟨stamp, hget, hage⟩ := step_lookup_eq_iff.1 hfound
    exact step_lookup_eq_iff.2 ⟨stamp, hget, by omega⟩

/-- Several pairs are counted as they were given, and all are written at one reading of the
clock. -/
structure WritesTogether (c : TimedCache κ α) (pairs : List (κ × α)) : Prop where
  count : (c.step (.upsertMany pairs)).1 = .count pairs.length
  clock : (c.step (.upsertMany pairs)).2.clock = c.clock.afterReading
  written : ∀ pair ∈ pairs, ∃ v, lastUnder Prod.fst pair.1 pairs = some (pair.1, v) ∧
    (c.step (.upsertMany pairs)).2.map.get? pair.1 = some ⟨v, c.clock.now⟩

theorem writesTogether (c : TimedCache κ α) (pairs : List (κ × α)) :
    c.WritesTogether pairs where
  count := rfl
  clock := rfl
  written pair hpair := by
    obtain ⟨⟨k, v⟩, hlast⟩ : ∃ last, lastUnder Prod.fst pair.1 pairs = some last :=
      exists_lastUnder_of_mem hpair rfl
    obtain ⟨-, rfl⟩ : (k, v) ∈ pairs ∧ k = pair.1 := mem_of_lastUnder_eq_some hlast
    refine ⟨v, hlast, get?_step_eq_some_iff.2 (.inl ⟨rfl, ?_⟩)⟩
    simp only [Action.written?, hlast, Option.map_some]

def evicted (c : TimedCache κ α) (maxAge : Span) (tp : Nat) : Set κ :=
  {k | (∃ entry, c.map.get? k = some entry) ∧
    (c.step (.evict maxAge tp)).2.map.get? k = none}

/-- An eviction counts the keys that it drops. Nothing is found under one of these, as of any
instant, until it is written again. -/
structure EvictsForGood (c : TimedCache κ α) (maxAge : Span) (tp : Nat) : Prop where
  count : ∃ n, (c.step (.evict maxAge tp)).1 = .count n ∧ (c.evicted maxAge tp).encard = n ∧
    n + (c.step (.evict maxAge tp)).2.map.size = c.map.size
  gone : ∀ k ∈ c.evicted maxAge tp, ∀ later,
    (∀ action ∈ later, action.written? k = none) → ∀ tp',
      (((c.step (.evict maxAge tp)).2.run later).step (.lookup k tp')).1 = .found none ∧
      (((c.step (.evict maxAge tp)).2.run later).step (.contains k tp')).1 = .flag false

theorem evictsForGood (c : TimedCache κ α) (maxAge : Span) (tp : Nat) :
    c.EvictsForGood maxAge tp where
  count := by
    let keep : κ → Stamped α → Bool := fun _ entry => entry.isFresh tp maxAge.millis
    have hle : (c.map.table.filter keep).size ≤ c.map.table.size :=
      c.map.table.size_filter_le keep
    exact ⟨_, rfl, c.map.table.encard_dropped keep, Nat.sub_add_cancel hle⟩
  gone k hk later hunwritten tp' := by
    exact answers_of_get?_eq_none (get?_run_eq_none hk.2 hunwritten) tp'

/-- A cache does what a map does that keeps the last value written under each key together
with the instant of the writing. This holds after any run, whatever the readings of the
clock. -/
theorem refines_stamped_map (clock : Clock) (timeout : Span) (actions : List (Action κ α)) :
    let first : TimedCache κ α := ⟨clock, timeout, .empty⟩
    let last := first.run actions
    (∀ k v stamp, last.map.get? k = some ⟨v, stamp⟩ ↔ first.Holds actions k v stamp) ∧
      {k | ∃ v stamp, first.Holds actions k v stamp}.encard = last.map.size ∧
      last.timeout = timeout ∧ last.Serves (first.Holds actions) ∧
      (∀ pairs, last.WritesTogether pairs) ∧ ∀ maxAge tp, last.EvictsForGood maxAge tp := by
  intro first last
  have hheld : ∀ k v stamp,
      last.map.get? k = some ⟨v, stamp⟩ ↔ first.Holds actions k v stamp := by
    intro k v stamp
    rw [get?_run_eq_some_iff]
    -- nothing was held at first
    refine or_iff_left ?_
    rintro ⟨-, h⟩
    cases h
  refine ⟨hheld, ?_, timeout_run first actions, serves hheld, writesTogether last,
    evictsForGood last⟩
  have hkeys : {k | ∃ v stamp, first.Holds actions k v stamp} =
      {k | ∃ entry, last.map.get? k = some entry} := by
    ext k
    simp only [← hheld]
    constructor
    · rintro ⟨v, stamp, h⟩
      exact ⟨⟨v, stamp⟩, h⟩
    · rintro ⟨⟨v, stamp⟩, h⟩
      exact ⟨v, stamp, h⟩
  rw [hkeys]
  exact last.map.table.encard_keys

end TimedCache

end SensorGateway
