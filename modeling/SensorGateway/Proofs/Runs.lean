import Mathlib.Tactic.Tauto

/-!
Runs as left folds over events. What is asked of the last state of a run is often decided by
one event: the last one that did not just keep things as they were. `holds_foldl_iff` derives
this from what a single event does. `noteAlong` collects what single events do along a run.
-/

namespace SensorGateway

variable {σ ε : Type}

/-! ### The last event that counts -/

/-- One of the events sets something, and all later ones keep it. -/
def SetLast (sets keeps : ε → Prop) (events : List ε) : Prop :=
  ∃ before event after, events = before ++ event :: after ∧ sets event ∧
    ∀ later ∈ after, keeps later

theorem not_setLast_nil {sets keeps : ε → Prop} : ¬SetLast sets keeps [] := by
  rintro ⟨before, event, after, h, -⟩
  cases before <;> cases h

theorem setLast_cons {sets keeps : ε → Prop} {event : ε} {events : List ε} :
    SetLast sets keeps (event :: events) ↔
      SetLast sets keeps events ∨ (∀ later ∈ events, keeps later) ∧ sets event := by
  constructor
  · rintro ⟨before, e, after, h, hsets, hkeeps⟩
    cases before with
    | nil =>
        obtain ⟨rfl, rfl⟩ := List.cons.inj h
        exact .inr ⟨hkeeps, hsets⟩
    | cons first before =>
        obtain ⟨rfl, rfl⟩ := List.cons.inj h
        exact .inl ⟨before, e, after, rfl, hsets, hkeeps⟩
  · rintro (⟨before, e, after, rfl, hsets, hkeeps⟩ | ⟨hkeeps, hsets⟩)
    · exact ⟨event :: before, e, after, rfl, hsets, hkeeps⟩
    · exact ⟨[], event, events, rfl, hsets, hkeeps⟩

/-- Suppose that an event brings a property about exactly by setting it or by keeping it.
Then a run ends with the property exactly if its last event that did not keep it set it, or
if the property was there and every event kept it. The events may rely on an invariant. -/
theorem holds_foldl_iff {f : σ → ε → σ} {I P : σ → Prop} {sets keeps : ε → Prop}
    (inv : ∀ s event, I s → I (f s event))
    (step : ∀ s event, I s → (P (f s event) ↔ sets event ∨ keeps event ∧ P s))
    {s : σ} (hs : I s) (events : List ε) :
    P (events.foldl f s) ↔
      SetLast sets keeps events ∨ (∀ event ∈ events, keeps event) ∧ P s := by
  induction events generalizing s with
  | nil => simp [not_setLast_nil]
  | cons event events ih =>
      rw [List.foldl_cons, ih (inv s event hs), step s event hs, setLast_cons,
        List.forall_mem_cons]
      tauto

/-- A property that is not there at first is brought about by the last event that did not
keep it. -/
theorem holds_foldl_iff_setLast {f : σ → ε → σ} {I P : σ → Prop} {sets keeps : ε → Prop}
    (inv : ∀ s event, I s → I (f s event))
    (step : ∀ s event, I s → (P (f s event) ↔ sets event ∨ keeps event ∧ P s))
    {s : σ} (hs : I s) (hP : ¬P s) (events : List ε) :
    P (events.foldl f s) ↔ SetLast sets keeps events := by
  rw [holds_foldl_iff inv step hs]
  exact or_iff_left fun h => hP h.2

/-! ### Notes taken along a run -/

section Notes

variable {β : Type} {step : σ → ε → σ} {note : σ → ε → List β}

/-- What is noted of the events of a run, each in the state in which it happens. -/
def noteAlong (step : σ → ε → σ) (note : σ → ε → List β) (s : σ) : List ε → List β
  | [] => []
  | event :: events => note s event ++ noteAlong step note (step s event) events

theorem noteAlong_append (s : σ) (events events' : List ε) :
    noteAlong step note s (events ++ events') =
      noteAlong step note s events ++ noteAlong step note (events.foldl step s) events' := by
  induction events generalizing s with
  | nil => rfl
  | cons event events ih =>
      rw [List.cons_append, noteAlong, noteAlong, ih, List.append_assoc, List.foldl_cons]

/-- What was noted along a run was noted of one of its events. -/
theorem exists_of_mem_noteAlong {s : σ} {events : List ε} {b : β}
    (h : b ∈ noteAlong step note s events) :
    ∃ before event after, events = before ++ event :: after ∧
      b ∈ note (before.foldl step s) event := by
  induction events generalizing s with
  | nil => cases h
  | cons event events ih =>
      rcases List.mem_append.1 h with h | h
      · exact ⟨[], event, events, rfl, h⟩
      · obtain ⟨before, later, after, rfl, hlater⟩ := ih h
        exact ⟨event :: before, later, after, rfl, hlater⟩

end Notes

end SensorGateway
