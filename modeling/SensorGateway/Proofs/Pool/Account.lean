import SensorGateway.Proofs.Buffer.Account
import SensorGateway.Proofs.Pool.Conservation

/-!
The metrics of a pool are an account too. All buffers share one gauge; merging two of them
leaves it as it is, and rightly so, since no payload enters or leaves.
-/

namespace SensorGateway

namespace Pool

/-- The number of payloads in all buffers. -/
def waiting : List Buffer → Nat
  | [] => 0
  | b :: buffers => b.size + waiting buffers

theorem waiting_new (capacities : List Nat) :
    waiting (capacities.map fun capacity => { capacity := capacity }) = 0 := by
  induction capacities with
  | nil => rfl
  | cons capacity capacities ih => simp [waiting, ih, Buffer.size]

/-- What waits besides in the other buffers, whichever buffer takes the place of one. -/
theorem exists_waiting_set {buffers : List Buffer} {i : Nat} {b : Buffer}
    (h : buffers[i]? = some b) :
    ∃ others, waiting buffers = others + b.size ∧
      ∀ b', waiting (buffers.set i b') = others + b'.size := by
  induction buffers generalizing i with
  | nil => cases h
  | cons first buffers ih =>
      cases i with
      | zero =>
          obtain rfl : first = b := Option.some.inj h
          exact ⟨waiting buffers, Nat.add_comm .., fun b' => Nat.add_comm ..⟩
      | succ i =>
          obtain ⟨others, hbefore, hafter⟩ := ih (i := i) h
          refine ⟨first.size + others, ?_, fun b' => ?_⟩
          · rw [waiting, hbefore, Nat.add_assoc]
          · rw [List.set_cons_succ, waiting, hafter, Nat.add_assoc]

theorem waiting_absorb {buffers : List Buffer} {into source : Nat} {a b : Buffer}
    (hne : into ≠ source) (ha : buffers[into]? = some a) (hb : buffers[source]? = some b) :
    waiting ((buffers.set into (a.absorb b).2.1).set source (a.absorb b).2.2) =
      waiting buffers := by
  have hb' : (buffers.set into (a.absorb b).2.1)[source]? = some b := by
    rw [List.getElem?_set_ne hne, hb]
  obtain ⟨others, hbefore, hinto⟩ := exists_waiting_set ha
  obtain ⟨others', hbetween, hsource⟩ := exists_waiting_set hb'
  have hmoved : a.moved b ≤ b.size := Nat.min_le_right ..
  rw [hinto, Buffer.size_absorb_into] at hbetween
  rw [hsource, Buffer.size_absorb_source, hbefore]
  omega

def events (p : Pool) (action : Action) : List Event :=
  match action, (p.step action).1 with
  | .buffer _ action, .buffer reply => action.events reply
  | _, _ => []

variable {p : Pool} {noted : List Event}

theorem account_step (h : p.metrics.Account noted (waiting p.buffers)) (action : Action) :
    (p.step action).2.metrics.Account (noted ++ p.events action)
      (waiting (p.step action).2.buffers) := by
  cases action with
  | buffer index action =>
      cases hindex : p.buffers[index]? with
      | none =>
          simp only [events, step, hindex, List.append_nil]
          exact h
      | some b =>
          obtain ⟨others, hbefore, hafter⟩ := exists_waiting_set hindex
          rw [hbefore] at h
          simp only [events, step, hindex, hafter]
          exact Buffer.account_step h action
  | absorb into source =>
      simp only [events, List.append_nil]
      by_cases hne : into = source
      · rw [step, if_pos hne]
        exact h
      · simp only [step, if_neg hne]
        split
        · rename_i a b ha hb
          rw [← waiting_absorb hne ha hb] at h
          exact h
        · exact h
  | outlet action =>
      simp only [events, List.append_nil]
      cases action <;> exact h

theorem account_run (h : p.metrics.Account noted (waiting p.buffers)) (actions : List Action) :
    (p.run actions).metrics.Account (noted ++ p.along events actions)
      (waiting (p.run actions).buffers) := by
  induction actions generalizing p noted with
  | nil => simpa [along, noteAlong, run] using h
  | cons action actions ih =>
      have hrest := ih (account_step h action)
      rwa [List.append_assoc] at hrest

/-- One payload is refused; the other one is moved and then handed back by the publisher. -/
example :
    let p : Pool :=
      { clock := { time := 0 }, buffers := [{ capacity := 1 }, { capacity := 2 }] }
    (p.run [.buffer 0 (.push "a"), .buffer 0 (.push "b"), .absorb 1 0,
      .outlet (.setFailing true), .buffer 1 .process]).metrics =
      { overflows := 1, failures := 1, publishCalls := 1 } := by
  decide

end Pool

end SensorGateway
