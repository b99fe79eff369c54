import SensorGateway.Proofs.TimedMap.Entry

/-!
Sweeps that no reader can notice. A sweep drops what is older than a bound. If the bound is
not below the time for which values are served, then all that it drops would not have been
served any more, neither at the instant of the sweep nor later. So a value that was written
recently enough is still there, and what is missing after some sweeps is not missed.
-/

namespace SensorGateway

variable {α : Type}

/-- Whether an operation leaves an entry there that can still be served. -/
def EntryOp.SparesFresh (timeout : Span) : EntryOp α → Prop
  | .keep | .write _ => True
  | .drop => False
  | .sweep maxAge => timeout.millis ≤ maxAge.millis

def WrittenSince (t : Nat) (entry : Option (Stamped α)) : Prop :=
  ∃ e, entry = some e ∧ t ≤ e.stamp

theorem WrittenSince.apply {t now : Nat} {entry : Option (Stamped α)} (h : WrittenSince t entry)
    {timeout : Span} {op : EntryOp α} (hop : op.SparesFresh timeout) (hle : t ≤ now)
    (hnow : now ≤ t + timeout.millis) : WrittenSince t (op.apply now entry) := by
  obtain ⟨e, rfl, hstamp⟩ := h
  cases op with
  | keep => exact ⟨e, rfl, hstamp⟩
  | write value => exact ⟨⟨value, now⟩, rfl, hle⟩
  | drop => exact hop.elim
  | sweep maxAge =>
      have hfresh : e.isFresh now maxAge.millis = true := by
        have : timeout.millis ≤ maxAge.millis := hop
        rw [Stamped.isFresh_iff]
        omega
      exact ⟨e, by simp [EntryOp.apply, hfresh], hstamp⟩

/-- An entry with and without some sweeps. They are the same, or at one of the sweeps the
entry was too old to be served and was dropped. -/
structure Thinned (timeout : Span) (sweeps : List Nat) (full thin : Option (Stamped α)) :
    Prop where
  subset : ∀ entry, thin = some entry → full = some entry
  outdated : ∀ entry, full = some entry → thin = none →
    ∃ t ∈ sweeps, timeout.millis < entry.age t

namespace Thinned

variable {timeout : Span} {sweeps : List Nat} {full thin : Option (Stamped α)}

theorem refl (timeout : Span) (entry : Option (Stamped α)) : Thinned timeout [] entry entry where
  subset _ h := h
  outdated _ h hnone := by
    rw [h] at hnone
    cases hnone

theorem mono (h : Thinned timeout sweeps full thin) {sweeps' : List Nat}
    (hsweeps : sweeps ⊆ sweeps') : Thinned timeout sweeps' full thin where
  subset := h.subset
  outdated entry hfull hthin := by
    obtain ⟨t, ht, hold⟩ := h.outdated entry hfull hthin
    exact ⟨t, hsweeps ht, hold⟩

/-- What is done in both runs at once does not set them further apart. -/
theorem apply (h : Thinned timeout sweeps full thin) (now : Nat) (op : EntryOp α) :
    Thinned timeout sweeps (op.apply now full) (op.apply now thin) := by
  cases op with
  | keep => exact h
  | write value => exact (refl timeout _).mono (List.nil_subset _)
  | drop => exact (refl timeout _).mono (List.nil_subset _)
  | sweep maxAge =>
      constructor
      · intro entry hthin
        obtain ⟨hthin, hfresh⟩ := Option.filter_eq_some_iff.1 hthin
        exact Option.filter_eq_some_iff.2 ⟨h.subset entry hthin, hfresh⟩
      · intro entry hfull hnone
        obtain ⟨hfull, hfresh⟩ := Option.filter_eq_some_iff.1 hfull
        refine h.outdated entry hfull (Option.eq_none_iff_forall_ne_some.2 fun other hthin => ?_)
        -- an entry that is still there is the same one, and the sweep keeps it
        obtain rfl := Option.some.inj ((h.subset other hthin).symm.trans hfull)
        exact absurd hnone (by simp [EntryOp.apply, hthin, hfresh])

/-- A sweep that is carried out in one run only. -/
theorem sweep (h : Thinned timeout sweeps full thin) (now : Nat) {maxAge : Span}
    (hle : timeout.millis ≤ maxAge.millis) :
    Thinned timeout (sweeps ++ [now]) full ((EntryOp.sweep maxAge).apply now thin) where
  subset entry hthin := h.subset entry (Option.filter_eq_some_iff.1 hthin).1
  outdated entry hfull hnone := by
    cases hthin : thin with
    | none =>
        obtain ⟨t, ht, hold⟩ := h.outdated entry hfull hthin
        exact ⟨t, List.mem_append_left _ ht, hold⟩
    | some other =>
        obtain rfl := Option.some.inj ((h.subset other hthin).symm.trans hfull)
        have hstale : ¬ other.isFresh now maxAge.millis = true := by
          intro hfresh
          simp [EntryOp.apply, hthin, hfresh] at hnone
        rw [Stamped.isFresh, decide_eq_true_iff] at hstale
        exact ⟨now, by simp, by omega⟩

/-- From the last sweep on the two entries are served alike. -/
theorem filter_isFresh (h : Thinned timeout sweeps full thin) {tp : Nat}
    (hlater : ∀ t ∈ sweeps, t ≤ tp) :
    (thin.filter fun entry => entry.isFresh tp timeout.millis) =
      full.filter fun entry => entry.isFresh tp timeout.millis := by
  cases hthin : thin with
  | some entry => rw [h.subset entry hthin]
  | none =>
      cases hfull : full with
      | none => rfl
      | some entry =>
          obtain ⟨t, ht, hold⟩ := h.outdated entry hfull hthin
          have hle := hlater t ht
          have hstale : ¬ entry.isFresh tp timeout.millis = true := by
            rw [Stamped.isFresh_iff]
            rw [Stamped.age] at hold
            omega
          rw [Option.filter_some, if_neg hstale, Option.filter_none]

end Thinned

namespace TimedMap

variable {κ : Type} [DecidableEq κ] {timeout : Span} {sweeps : List Nat}
  {full thin : TimedMap κ α}

theorem thinned_evict {k : κ} (h : Thinned timeout sweeps (full.get? k) (thin.get? k)) (now : Nat)
    {maxAge : Span} (hle : timeout.millis ≤ maxAge.millis) :
    Thinned timeout (sweeps ++ [now]) (full.get? k) ((thin.evict maxAge now).get? k) := by
  rw [get?_evict]
  exact h.sweep now hle

theorem lookup_of_thinned (h : ∀ k, Thinned timeout sweeps (full.get? k) (thin.get? k))
    {tp : Nat} (hlater : ∀ t ∈ sweeps, t ≤ tp) (k : κ) :
    thin.lookup timeout k tp = full.lookup timeout k tp := by
  rw [lookup, lookup, (h k).filter_isFresh hlater]

theorem contains_of_thinned (h : ∀ k, Thinned timeout sweeps (full.get? k) (thin.get? k))
    {tp : Nat} (hlater : ∀ t ∈ sweeps, t ≤ tp) (k : κ) :
    thin.contains timeout k tp = full.contains timeout k tp := by
  rw [contains_eq_isSome_lookup, contains_eq_isSome_lookup, lookup_of_thinned h hlater]

end TimedMap

end SensorGateway
