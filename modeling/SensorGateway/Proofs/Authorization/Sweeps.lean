import SensorGateway.Proofs.Authorization.History
import SensorGateway.Proofs.TimedMap.Sweep

/-!
Two runs of one history. The first leaves out every sweep whose bound is not below the time
for which records are served, the second carries them out. The second run holds fewer
records, but from the last of these sweeps on nobody who asks can tell the two apart.
-/

namespace SensorGateway

/-- Whether an operation drops records for their age and spares all that are still served. -/
def CacheOp.isLateSweep (timeout : Span) (op : CacheOp) : Bool :=
  (op.ageBound? timeout).any fun bound => timeout.millis ≤ bound.millis

theorem CacheOp.isLateSweep_iff {timeout : Span} {op : CacheOp} :
    op.isLateSweep timeout = true ↔
      ∃ bound, op.ageBound? timeout = some bound ∧ timeout.millis ≤ bound.millis := by
  simp [isLateSweep, Option.any_eq_true]

namespace Authorization

def lateSweeps (timeout : Span) (history : List (Nat × CacheOp)) : List Nat :=
  (history.filter fun e => e.2.isLateSweep timeout).map Prod.fst

def withoutLateSweeps (timeout : Span) (history : List (Nat × CacheOp)) :
    List (Nat × CacheOp) :=
  history.filter fun e => !e.2.isLateSweep timeout

/-- What is held with and without some late sweeps: the same but for records that were too
old to be served when they were dropped. -/
structure SweptFrom (sweeps : List Nat) (full thin : Authorization) : Prop where
  timeout : thin.timeout = full.timeout
  sensors : ∀ id,
    Thinned full.timeout sweeps (full.sensors.get? id) (thin.sensors.get? id)
  users : ∀ id, Thinned full.timeout sweeps (full.users.get? id) (thin.users.get? id)
  keys : ∀ key, Thinned full.timeout sweeps (full.keys.get? key) (thin.keys.get? key)
  blacklist : thin.blacklist = full.blacklist

/-- No question about a sensor, a user or a key tells two caches apart at an instant. -/
structure AnswersAlike (a b : Authorization) (tp : Nat) : Prop where
  sensor : ∀ id, a.getSensor id tp = b.getSensor id tp
  user : ∀ id, a.getUser id tp = b.getUser id tp
  key : ∀ key, a.getKey key tp = b.getKey key tp
  status : ∀ id, a.statusAt id tp = b.statusAt id tp

@[simp] theorem run_nil (a : Authorization) : a.run [] = a :=
  rfl

@[simp] theorem run_cons (a : Authorization) (e : Nat × CacheOp)
    (history : List (Nat × CacheOp)) :
    a.run (e :: history) = (a.apply e.1 e.2).run history :=
  rfl

theorem blacklist_apply_congr {a b : Authorization} (h : a.blacklist = b.blacklist)
    (now : Nat) (op : CacheOp) : (a.apply now op).blacklist = (b.apply now op).blacklist := by
  cases op <;> simp [apply, bar, appendSensors, appendUsers, appendKeys, evict, h]

theorem apply_of_ageBound {a : Authorization} {op : CacheOp} {bound : Span}
    (h : op.ageBound? a.timeout = some bound) (now : Nat) :
    a.apply now op = a.evict bound now := by
  cases op with
  | cleanup =>
      obtain rfl := Option.some.inj h
      rfl
  | cleanupFor maxAge =>
      obtain rfl := Option.some.inj h
      rfl
  | _ => cases h

/-- An operation sets the records of no kind further apart. -/
theorem thinned_apply {κ α : Type} [DecidableEq κ] (kind : RecordKind κ α)
    {sweeps : List Nat} {full thin : Authorization} {k : κ} (htimeout : thin.timeout = full.timeout)
    (h : Thinned full.timeout sweeps ((kind.held full).get? k) ((kind.held thin).get? k))
    (now : Nat) (op : CacheOp) :
    Thinned (full.apply now op).timeout sweeps ((kind.held (full.apply now op)).get? k)
      ((kind.held (thin.apply now op)).get? k) := by
  rw [timeout_apply, kind.get?_apply, kind.get?_apply, htimeout]
  exact h.apply now _

namespace SweptFrom

variable {sweeps : List Nat} {full thin : Authorization}

theorem refl (a : Authorization) : SweptFrom [] a a where
  timeout := rfl
  sensors _ := .refl _ _
  users _ := .refl _ _
  keys _ := .refl _ _
  blacklist := rfl

/-- An operation that is carried out in both runs. -/
theorem apply (h : SweptFrom sweeps full thin) (now : Nat) (op : CacheOp) :
    SweptFrom sweeps (full.apply now op) (thin.apply now op) where
  timeout := by simp [h.timeout]
  sensors id := thinned_apply RecordKind.sensors h.timeout (h.sensors id) now op
  users id := thinned_apply RecordKind.users h.timeout (h.users id) now op
  keys key := thinned_apply RecordKind.keys h.timeout (h.keys key) now op
  blacklist := blacklist_apply_congr h.blacklist now op

/-- A late sweep that is carried out in the second run only. -/
theorem lateSweep (h : SweptFrom sweeps full thin) (now : Nat) {op : CacheOp}
    (hlate : op.isLateSweep full.timeout = true) :
    SweptFrom (sweeps ++ [now]) full (thin.apply now op) := by
  obtain ⟨bound, hbound, hle⟩ := CacheOp.isLateSweep_iff.1 hlate
  rw [apply_of_ageBound (h.timeout ▸ hbound)]
  exact {
    timeout := h.timeout
    sensors := fun id => TimedMap.thinned_evict (h.sensors id) now hle
    users := fun id => TimedMap.thinned_evict (h.users id) now hle
    keys := fun key => TimedMap.thinned_evict (h.keys key) now hle
    blacklist := h.blacklist }

theorem run (h : SweptFrom sweeps full thin) (history : List (Nat × CacheOp)) :
    SweptFrom (sweeps ++ lateSweeps full.timeout history)
      (full.run (withoutLateSweeps full.timeout history)) (thin.run history) := by
  induction history generalizing full thin sweeps with
  | nil => simpa [lateSweeps, withoutLateSweeps] using h
  | cons e history ih =>
      by_cases hlate : e.2.isLateSweep full.timeout = true
      · have hnext := ih (h.lateSweep e.1 hlate)
        rw [List.append_assoc] at hnext
        simpa [lateSweeps, withoutLateSweeps, hlate] using hnext
      · have hnext := ih (h.apply e.1 e.2)
        rw [timeout_apply] at hnext
        simpa [lateSweeps, withoutLateSweeps, hlate] using hnext

theorem answersAlike (h : SweptFrom sweeps full thin) {tp : Nat}
    (hlater : ∀ t ∈ sweeps, t ≤ tp) : AnswersAlike thin full tp where
  sensor id := by
    rw [getSensor, h.timeout]
    exact TimedMap.lookup_of_thinned h.sensors hlater id
  user id := by
    rw [getUser, h.timeout]
    exact TimedMap.lookup_of_thinned h.users hlater id
  key key := by
    rw [getKey, h.timeout]
    exact TimedMap.lookup_of_thinned h.keys hlater key
  status id := by
    have hcontains := TimedMap.contains_of_thinned h.sensors hlater id
    rw [statusAt, statusAt, isBlacklisted, isBlacklisted, h.blacklist, h.timeout, hcontains]

end SweptFrom

/-- Sweeps whose bound is not below the timeout cannot be noticed. After any history they
have only dropped records that were too old to be served at one of them. So every question
about an instant at which they are over is answered as if there had been none of them. -/
theorem late_sweeps_invisible (a : Authorization) (history : List (Nat × CacheOp)) :
    let sweeps := lateSweeps a.timeout history
    let full := a.run (withoutLateSweeps a.timeout history)
    let thin := a.run history
    SweptFrom sweeps full thin ∧
      ∀ tp, (∀ t ∈ sweeps, t ≤ tp) → AnswersAlike thin full tp := by
  intro sweeps full thin
  have h : SweptFrom sweeps full thin := (SweptFrom.refl a).run history
  exact ⟨h, fun tp hlater => h.answersAlike hlater⟩

/-- About an instant before the sweep the two can be told apart. -/
example :
    let a : Authorization := { timeout := .ofSeconds 1 }
    let history := [(5, .appendUsers [{ id := ⟨List.replicate 16 4, rfl⟩ }]), (1006, .cleanup)]
    let user := fun (history : List (Nat × CacheOp)) =>
      (a.run history).getUser ⟨List.replicate 16 4, rfl⟩ 1005
    (user history).isNone ∧ (user (withoutLateSweeps a.timeout history)).isSome := by
  decide

end Authorization

end SensorGateway
