import SensorGateway.Clock
import SensorGateway.Table

/-!
Maps whose entries grow old. An entry carries the instant at which it was written and is
served while it is fresh: while its age is within a bound. An instant before the writing
counts as age zero.
-/

namespace SensorGateway

/-- A value and the instant at which it was written. -/
structure Stamped (α : Type) where
  value : α
  stamp : Nat
  deriving DecidableEq, Repr

namespace Stamped

variable {α : Type}

/-- The milliseconds that have passed since the writing. -/
def age (entry : Stamped α) (tp : Nat) : Nat :=
  tp - entry.stamp

def isFresh (entry : Stamped α) (tp : Nat) (bound : Nat) : Bool :=
  entry.age tp ≤ bound

theorem isFresh_iff {entry : Stamped α} {tp : Nat} {bound : Nat} :
    entry.isFresh tp bound = true ↔ tp ≤ entry.stamp + bound := by
  rw [isFresh, decide_eq_true_iff, age]
  omega

end Stamped

structure TimedMap (κ α : Type) where
  table : Table κ (Stamped α)

namespace TimedMap

variable {κ α : Type}

def empty : TimedMap κ α :=
  ⟨.empty⟩

instance : Inhabited (TimedMap κ α) := ⟨empty⟩

/-- The number of entries, fresh or not. -/
def size (m : TimedMap κ α) : Nat :=
  m.table.size

variable [DecidableEq κ]

def get? (m : TimedMap κ α) (k : κ) : Option (Stamped α) :=
  m.table.get? k

def upsert (m : TimedMap κ α) (now : Nat) (k : κ) (v : α) : TimedMap κ α :=
  ⟨m.table.insert k ⟨v, now⟩⟩

/-- Writes several values at one instant; of several for one key the last one stays. -/
def upsertMany (m : TimedMap κ α) (now : Nat) (pairs : List (κ × α)) : TimedMap κ α :=
  pairs.foldl (fun m pair => m.upsert now pair.1 pair.2) m

/-- The value under a key, if it is fresh. -/
def lookup (m : TimedMap κ α) (timeout : Span) (k : κ) (tp : Nat) : Option α :=
  ((m.get? k).filter fun entry => entry.isFresh tp timeout.millis).map Stamped.value

def contains (m : TimedMap κ α) (timeout : Span) (k : κ) (tp : Nat) : Bool :=
  (m.get? k).any fun entry => entry.isFresh tp timeout.millis

def remove (m : TimedMap κ α) (k : κ) : TimedMap κ α :=
  ⟨m.table.erase k⟩

omit [DecidableEq κ] in
/-- Drops the entries whose age is beyond a bound. -/
def evict (m : TimedMap κ α) (maxAge : Span) (tp : Nat) : TimedMap κ α :=
  ⟨m.table.filter fun _ entry => entry.isFresh tp maxAge.millis⟩

@[simp] theorem get?_empty (k : κ) : (empty : TimedMap κ α).get? k = none :=
  rfl

theorem get?_upsert (m : TimedMap κ α) (now : Nat) (k key : κ) (v : α) :
    (m.upsert now k v).get? key = if key = k then some ⟨v, now⟩ else m.get? key :=
  Table.get?_insert ..

theorem get?_remove (m : TimedMap κ α) (k key : κ) :
    (m.remove k).get? key = if key = k then none else m.get? key :=
  Table.get?_erase ..

theorem get?_evict (m : TimedMap κ α) (maxAge : Span) (tp : Nat) (k : κ) :
    (m.evict maxAge tp).get? k =
      (m.get? k).filter fun entry => entry.isFresh tp maxAge.millis :=
  Table.get?_filter ..

theorem contains_eq_isSome_lookup (m : TimedMap κ α) (timeout : Span) (k : κ) (tp : Nat) :
    m.contains timeout k tp = (m.lookup timeout k tp).isSome := by
  unfold contains lookup
  cases m.get? k with
  | none => rfl
  | some entry => cases h : entry.isFresh tp timeout.millis <;> simp [h, Option.filter]

end TimedMap

end SensorGateway
