import SensorGateway.Authorization
import SensorGateway.Proofs.TimedMap.Entry

/-!
What cache operations do to single entries. Sensors, users and keys are three kinds of records
that are treated alike; a `RecordKind` says how operations look to one of them, and what they
do to the entry under an identity follows for all three. The barring of a sensor is a matter
of its own.
-/

namespace SensorGateway

/-- What an operation is to the records of one kind. -/
inductive RecordOp (κ α : Type) where
  | append (records : List α)
  | flush (k : κ)
  | sweep (maxAge : Span)
  | clear
  | keep

namespace RecordOp

variable {κ α : Type} [DecidableEq κ] {identity : α → κ}

def apply (identity : α → κ) (now : Nat) (m : TimedMap κ α) : RecordOp κ α → TimedMap κ α
  | .append records => m.upsertMany now (records.map fun r => (identity r, r))
  | .flush k => m.remove k
  | .sweep maxAge => m.evict maxAge now
  | .clear => .empty
  | .keep => m

def onEntry (identity : α → κ) (k : κ) : RecordOp κ α → EntryOp α
  | .append records => .writeIf (lastUnder identity k records)
  | .flush i => if k = i then .drop else .keep
  | .sweep maxAge => .sweep maxAge
  | .clear => .drop
  | .keep => .keep

theorem get?_apply (op : RecordOp κ α) (now : Nat) (m : TimedMap κ α) (k : κ) :
    (op.apply identity now m).get? k = (op.onEntry identity k).apply now (m.get? k) := by
  cases op with
  | append records => exact TimedMap.get?_upsertMany_map ..
  | flush i =>
      rw [apply, TimedMap.get?_remove, onEntry]
      split <;> rfl
  | sweep maxAge => exact TimedMap.get?_evict ..
  | _ => rfl

/-- Only an operation that appends a record of an identity writes it. -/
theorem exists_of_onEntry_eq_write {op : RecordOp κ α} {k : κ} {record : α}
    (h : op.onEntry identity k = .write record) :
    ∃ records, op = .append records ∧ record ∈ records ∧ identity record = k := by
  cases op with
  | append records =>
      exact ⟨records, rfl, mem_of_lastUnder_eq_some (EntryOp.writeIf_eq_write_iff.1 h)⟩
  | flush i =>
      simp only [onEntry] at h
      split at h <;> cases h
  | _ => cases h

end RecordOp

namespace CacheOp

/-- What an operation is to all kinds of records that it does not name. -/
def onOthers {κ α : Type} (timeout : Span) : CacheOp → RecordOp κ α
  | .cleanup => .sweep timeout
  | .cleanupFor maxAge => .sweep maxAge
  | .clear => .clear
  | _ => .keep

def onSensors (timeout : Span) : CacheOp → RecordOp ObjectId SensorRecord
  | .appendSensors sensors => .append sensors
  | .flushSensor id => .flush id
  | op => op.onOthers timeout

def onUsers (timeout : Span) : CacheOp → RecordOp Uuid UserRecord
  | .appendUsers users => .append users
  | .flushUser id => .flush id
  | op => op.onOthers timeout

/-- Revoked keys are passed over. -/
def onKeys (timeout : Span) : CacheOp → RecordOp String ApiKeyRecord
  | .appendKeys keys => .append (Authorization.liveKeys keys)
  | .flushKey key => .flush key
  | op => op.onOthers timeout

variable {timeout : Span} {op : CacheOp}

theorem onSensors_eq_append {sensors : List SensorRecord}
    (h : op.onSensors timeout = .append sensors) :
    ∃ listed, op = .appendSensors listed ∧ sensors ⊆ listed := by
  cases op <;> cases h
  exact ⟨sensors, rfl, List.Subset.refl sensors⟩

theorem onUsers_eq_append {users : List UserRecord} (h : op.onUsers timeout = .append users) :
    ∃ listed, op = .appendUsers listed ∧ users ⊆ listed := by
  cases op <;> cases h
  exact ⟨users, rfl, List.Subset.refl users⟩

theorem onKeys_eq_append {live : List ApiKeyRecord} (h : op.onKeys timeout = .append live) :
    ∃ keys, op = .appendKeys keys ∧ live = Authorization.liveKeys keys := by
  cases op <;> cases h
  exact ⟨_, rfl, rfl⟩

end CacheOp

namespace Authorization

@[simp] theorem timeout_apply (a : Authorization) (now : Nat) (op : CacheOp) :
    (a.apply now op).timeout = a.timeout := by
  cases op <;> rfl

end Authorization

/-- A kind of records: what identifies them, where they are held, how they are appended, and
what the operations are to them. -/
structure RecordKind (κ α : Type) [DecidableEq κ] where
  identity : α → κ
  held : Authorization → TimedMap κ α
  append : List α → CacheOp
  view : Span → CacheOp → RecordOp κ α
  held_start : ∀ timeout, held { timeout := timeout } = .empty
  held_apply : ∀ a now op,
    held (a.apply now op) = (view a.timeout op).apply identity now (held a)
  /-- What is appended is among what is listed. -/
  view_append : ∀ {timeout op records}, view timeout op = .append records →
    ∃ listed, op = append listed ∧ records ⊆ listed

namespace RecordKind

variable {κ α : Type} [DecidableEq κ]

def sensors : RecordKind ObjectId SensorRecord where
  identity := SensorRecord.id
  held := Authorization.sensors
  append := .appendSensors
  view := CacheOp.onSensors
  held_start _ := rfl
  held_apply _ _ op := by cases op <;> rfl
  view_append := CacheOp.onSensors_eq_append

def users : RecordKind Uuid UserRecord where
  identity := UserRecord.id
  held := Authorization.users
  append := .appendUsers
  view := CacheOp.onUsers
  held_start _ := rfl
  held_apply _ _ op := by cases op <;> rfl
  view_append := CacheOp.onUsers_eq_append

def keys : RecordKind String ApiKeyRecord where
  identity := ApiKeyRecord.key
  held := Authorization.keys
  append := .appendKeys
  view := CacheOp.onKeys
  held_start _ := rfl
  held_apply _ _ op := by cases op <;> rfl
  view_append h := by
    obtain ⟨keys, rfl, rfl⟩ := CacheOp.onKeys_eq_append h
    exact ⟨keys, rfl, List.filter_sublist.subset⟩

def onEntry (kind : RecordKind κ α) (timeout : Span) (k : κ) (op : CacheOp) : EntryOp α :=
  (kind.view timeout op).onEntry kind.identity k

theorem get?_apply (kind : RecordKind κ α) (a : Authorization) (now : Nat) (op : CacheOp)
    (k : κ) : (kind.held (a.apply now op)).get? k =
      (kind.onEntry a.timeout k op).apply now ((kind.held a).get? k) := by
  rw [kind.held_apply, RecordOp.get?_apply, onEntry]

end RecordKind

namespace CacheOp

def Bars (id : ObjectId) : CacheOp → Prop
  | .blacklist i => id = i
  | .blacklistMany ids => id ∈ ids
  | _ => False

def Unbars (id : ObjectId) : CacheOp → Prop
  | .unblacklist i => id = i
  | .clearBlacklist => True
  | _ => False

end CacheOp

namespace Authorization

theorem isBlacklisted_bar (a : Authorization) (ids : List ObjectId) (id : ObjectId) :
    (a.bar ids).isBlacklisted id = true ↔ id ∈ ids ∨ a.isBlacklisted id = true := by
  induction ids generalizing a with
  | nil => simp [bar, Table.insertAll]
  | cons i ids ih =>
      have hstep : a.bar (i :: ids) =
          ({ a with blacklist := a.blacklist.insert i () } : Authorization).bar ids := rfl
      have hfirst : ({ a with blacklist := a.blacklist.insert i () } :
          Authorization).isBlacklisted id = true ↔ id = i ∨ a.isBlacklisted id = true := by
        simp only [isBlacklisted, Table.contains, Table.get?_insert]
        by_cases h : id = i <;> simp [h]
      rw [hstep, ih, hfirst, List.mem_cons]
      tauto

theorem isBlacklisted_apply (a : Authorization) (now : Nat) (op : CacheOp) (id : ObjectId) :
    (a.apply now op).isBlacklisted id = true ↔
      op.Bars id ∨ (¬op.Bars id ∧ ¬op.Unbars id) ∧ a.isBlacklisted id = true := by
  cases op with
  | blacklist i =>
      refine (isBlacklisted_bar a [i] id).trans ?_
      simp only [List.mem_singleton, CacheOp.Bars, CacheOp.Unbars]
      tauto
  | blacklistMany ids =>
      refine (isBlacklisted_bar a ids id).trans ?_
      simp only [CacheOp.Bars, CacheOp.Unbars]
      tauto
  | unblacklist i =>
      simp only [apply, isBlacklisted, Table.contains, Table.get?_erase, CacheOp.Bars,
        CacheOp.Unbars]
      by_cases h : id = i <;> simp [h]
  | clearBlacklist => simp [apply, isBlacklisted, Table.contains, CacheOp.Bars, CacheOp.Unbars]
  | _ => simp [apply, isBlacklisted, appendSensors, appendUsers, appendKeys, evict,
      CacheOp.Bars, CacheOp.Unbars]

end Authorization

end SensorGateway
