import SensorGateway.Gateway.Run
import SensorGateway.Proofs.Reload.Gather

/-!
Reloads that fail. A reload fails exactly if a repository it consults fails, it names the
first such repository, and the gateway is as it was before.
-/

namespace SensorGateway

namespace Gateway

/-- What a reload does that consults some of the repositories one after another, as far as
outages go. Of the gateway, a failed reload changes at most the count of the pages that its
repositories have served. -/
structure FailsInTurn {α : Type} (g : Gateway Memory) (parts : List Memory.Part)
    (outcome : Except ReloadError α × Gateway Memory) : Prop where
  fails : (∃ e, outcome.1 = .error e) ↔ ∃ part ∈ parts, g.repositories.isFailing part = true
  first : ∀ e, outcome.1 = .error e →
    ∃ before part after, parts = before ++ part :: after ∧
      g.repositories.isFailing part = true ∧
      (∀ p ∈ before, g.repositories.isFailing p = false) ∧ e = part.error
  unchanged : ∀ e, outcome.1 = .error e →
    ∃ served, outcome.2 = { g with repositories := g.repositories.servePages served }

/-- A reload that first gathers and then, if that succeeds, carries on to its end. -/
theorem failsInTurn_of_gather {α β : Type} {g : Gateway Memory} {parts : List Memory.Part}
    {value : β} {served : Nat} {gathered : Except ReloadError β × Memory}
    {outcome : Except ReloadError α × Gateway Memory}
    (hgather : gathered =
      (g.repositories.consult parts value, g.repositories.servePages served))
    (herror : ∀ e r, gathered = (.error e, r) →
      outcome = (.error e, { g with repositories := r }))
    (hok : ∀ v r, gathered = (.ok v, r) → ∃ a, outcome.1 = .ok a) :
    FailsInTurn g parts outcome := by
  cases h : g.repositories.consult parts value with
  | error e =>
      rw [h] at hgather
      obtain ⟨before, part, after, hparts, hfail, hbefore, he⟩ :=
        Memory.consult_eq_error_iff.1 h
      have hpart : part ∈ parts := hparts ▸ List.mem_append_right before List.mem_cons_self
      rw [herror e _ hgather]
      refine ⟨⟨fun _ => ⟨part, hpart, hfail⟩, fun _ => ⟨e, rfl⟩⟩, ?_, fun _ _ => ⟨served, ?_⟩⟩
      · rintro _ ⟨rfl⟩
        exact ⟨before, part, after, hparts, hfail, hbefore, he⟩
      · rfl
  | ok v =>
      rw [h] at hgather
      obtain ⟨a, ha⟩ := hok v _ hgather
      have hno : ∀ e, outcome.1 ≠ .error e := by
        intro e he
        cases ha.symm.trans he
      refine ⟨⟨fun ⟨e, he⟩ => absurd he (hno e), ?_⟩, fun e he => absurd he (hno e),
        fun e he => absurd he (hno e)⟩
      rintro ⟨part, hpart, hfail⟩
      rw [(Memory.consult_eq_ok_iff.1 h).1 part hpart] at hfail
      cases hfail

theorem failsInTurn_reloadAll (g : Gateway Memory) :
    FailsInTurn g [.sensors, .users, .keys] g.reloadAll := by
  refine failsInTurn_of_gather (Reload.gatherAll_eq _ g.settings.effectivePageSize_pos _) ?_ ?_
  · intro e r h
    rw [reloadAll, h]
  · intro harvest r h
    rw [reloadAll, h]
    exact ⟨_, rfl⟩

theorem failsInTurn_reloadSensors (g : Gateway Memory) (ids : List ObjectId) :
    FailsInTurn g (if ids = [] then [] else [.sensors, .users, .keys])
      (g.reloadSensors ids) := by
  by_cases hids : ids = []
  · rw [if_pos hids, reloadSensors, if_pos hids]
    have hnone : ((.ok (), g.repositories) : Except ReloadError Unit × Memory) =
        (g.repositories.consult [] (), g.repositories.servePages 0) := rfl
    refine failsInTurn_of_gather hnone ?_ ?_
    · intro e r h
      cases h
    · intro v r _
      exact ⟨_, rfl⟩
  · rw [if_neg hids, reloadSensors, if_neg hids]
    refine failsInTurn_of_gather
      (Reload.gatherSome_eq ids _ g.settings.effectivePageSize_pos _) ?_ ?_
    · intro e r h
      rw [h]
    · intro harvest r h
      rw [h]
      exact ⟨_, rfl⟩

theorem failsInTurn_reloadSensor (g : Gateway Memory) (id : ObjectId) :
    FailsInTurn g
      (if g.repositories.sensors.table.contains id then [.sensors, .users] else [.sensors])
      (g.reloadSensor id) := by
  refine failsInTurn_of_gather (Reload.gatherOne_eq id _) ?_ ?_
  · intro e r h
    rw [reloadSensor, h]
  · intro found r h
    rw [reloadSensor, h]
    exact ⟨_, rfl⟩

/-- All three reloads fail exactly because of the repositories they consult. A reload of
given sensors consults all repositories, unless no sensors are given, even if it finds none;
a reload of one sensor consults the users only if the sensor is stored, and never the
keys. -/
theorem failed_reload_changes_nothing (g : Gateway Memory) :
    FailsInTurn g [.sensors, .users, .keys] g.reloadAll ∧
      (∀ ids, FailsInTurn g (if ids = [] then [] else [.sensors, .users, .keys])
        (g.reloadSensors ids)) ∧
      ∀ id, FailsInTurn g
        (if g.repositories.sensors.table.contains id then [.sensors, .users] else [.sensors])
        (g.reloadSensor id) :=
  ⟨g.failsInTurn_reloadAll, g.failsInTurn_reloadSensors, g.failsInTurn_reloadSensor⟩

end Gateway

end SensorGateway
