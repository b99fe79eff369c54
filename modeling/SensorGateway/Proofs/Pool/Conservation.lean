import SensorGateway.Pool
import SensorGateway.Proofs.Buffer.Contents
import SensorGateway.Proofs.Runs

/-!
The way of payloads through a pool of buffers. They may travel through several buffers before
they are drained, so what is conserved is a multiset: all that was accepted is what left and
what some buffer still holds. No buffer is ever filled beyond its capacity.
-/

namespace SensorGateway

/-- Replacing one member of a list exchanges what it contributes. -/
theorem count_flatMap_set {α β : Type} [DecidableEq β] (f : α → List β) {xs : List α} {i : Nat}
    {x : α} (h : xs[i]? = some x) (y : α) (b : β) :
    ((xs.set i y).flatMap f).count b + (f x).count b =
      (xs.flatMap f).count b + (f y).count b := by
  -- the counts stand on the side where they are added, so nothing is subtracted
  induction xs generalizing i with
  | nil => cases h
  | cons z xs ih =>
      cases i with
      | zero =>
          obtain rfl : z = x := Option.some.inj h
          simp only [List.set_cons_zero, List.flatMap_cons, List.count_append]
          omega
      | succ i =>
          have hrest := ih (i := i) h
          simp only [List.set_cons_succ, List.flatMap_cons, List.count_append]
          omega

namespace Pool

open Buffer (Reply)

def held (p : Pool) : List String :=
  p.buffers.flatMap Buffer.contents

def accepted (p : Pool) : Action → List String
  | .buffer index action =>
    match p.buffers[index]? with
    | none => []
    | some b => action.accepted (b.step p.toOutlet action).1
  | _ => []

def drained (p : Pool) : Action → List (List String)
  | .buffer index action =>
    match p.buffers[index]? with
    | none => []
    | some b => b.drained action (b.step p.toOutlet action).1
  | _ => []

/-- What is noted of each action along a run. -/
def along {β : Type} (note : Pool → Action → List β) (p : Pool) (actions : List Action) :
    List β :=
  noteAlong (fun p action => (p.step action).2) note p actions

/-- Between two states of a pool some payloads are accepted and some batches taken out. As
multisets, what was held and what is accepted is what leaves and what is held afterwards.
The capacities stay, and no buffer is filled beyond its own. -/
structure Exchange (p p' : Pool) (accepted : List String) (drained : List (List String)) :
    Prop where
  payloads : (p.held ++ accepted).Perm (drained.flatten ++ p'.held)
  capacities : p'.buffers.map Buffer.capacity = p.buffers.map Buffer.capacity
  fits : (∀ b ∈ p.buffers, b.size ≤ b.capacity) → ∀ b ∈ p'.buffers, b.size ≤ b.capacity

theorem Exchange.of_eq {p p' : Pool} (h : p'.buffers = p.buffers) : Exchange p p' [] [] where
  payloads := by
    rw [held, held, h, List.append_nil]
    exact .refl _
  capacities := by rw [h]
  fits := by
    rw [h]
    exact id

theorem Exchange.trans {p q r : Pool} {accepted accepted' : List String}
    {drained drained' : List (List String)} (h : Exchange p q accepted drained)
    (h' : Exchange q r accepted' drained') :
    Exchange p r (accepted ++ accepted') (drained ++ drained') where
  payloads := by
    rw [List.perm_iff_count]
    intro payload
    have hcount := h.payloads.count_eq payload
    have hcount' := h'.payloads.count_eq payload
    simp only [List.flatten_append, List.count_append] at hcount hcount' ⊢
    omega
  capacities := h'.capacities.trans h.capacities
  fits := h'.fits ∘ h.fits

/-- Replacing a buffer by one of the same capacity changes no capacity. -/
theorem map_capacity_set {buffers : List Buffer} {i : Nat} {b b' : Buffer}
    (h : buffers[i]? = some b) (hcapacity : b'.capacity = b.capacity) :
    (buffers.set i b').map Buffer.capacity = buffers.map Buffer.capacity := by
  obtain ⟨hi, rfl⟩ := List.getElem?_eq_some_iff.1 h
  have hi' : i < (buffers.map Buffer.capacity).length := by rwa [List.length_map]
  have hmap : (buffers.map Buffer.capacity)[i] = b'.capacity := by
    rw [List.getElem_map, hcapacity]
  rw [List.map_set, ← hmap, List.set_getElem_self]

theorem fits_set {buffers : List Buffer} {i : Nat} {b' : Buffer}
    (hfits : ∀ b ∈ buffers, b.size ≤ b.capacity) (hb' : b'.size ≤ b'.capacity) :
    ∀ b ∈ buffers.set i b', b.size ≤ b.capacity := by
  intro b hb
  rcases List.mem_or_eq_of_mem_set hb with hb | rfl
  · exact hfits b hb
  · exact hb'

/-- What one buffer exchanges, the pool exchanges. -/
theorem exchange_set {p : Pool} {i : Nat} {b b' : Buffer} (h : p.buffers[i]? = some b)
    {accepted : List String} {drained : List (List String)}
    (hb : Buffer.Exchange b b' accepted drained) (o : Outlet) :
    Exchange p { p with toOutlet := o, buffers := p.buffers.set i b' } accepted drained where
  payloads := by
    rw [List.perm_iff_count]
    intro payload
    have hset := count_flatMap_set Buffer.contents h b' payload
    have hexchange := congrArg (List.count payload) hb.contents
    simp only [held, List.count_append] at hexchange ⊢
    omega
  capacities := map_capacity_set h hb.capacity
  fits hfits := fits_set hfits (hb.fits (hfits b (List.mem_of_getElem? h)))

/-- Merging two buffers takes nothing in and lets nothing out. -/
theorem exchange_absorb {p : Pool} {into source : Nat} {a b : Buffer} (hne : into ≠ source)
    (ha : p.buffers[into]? = some a) (hb : p.buffers[source]? = some b) :
    Exchange p { p with
      buffers := (p.buffers.set into (a.absorb b).2.1).set source (a.absorb b).2.2 } [] [] := by
  -- the buffers are replaced one after the other, and the source is still what it was
  have hb' : (p.buffers.set into (a.absorb b).2.1)[source]? = some b := by
    rw [List.getElem?_set_ne hne, hb]
  refine ⟨?_, ?_, fun hfits => ?_⟩
  · rw [List.perm_iff_count]
    intro payload
    have hinto := count_flatMap_set Buffer.contents ha (a.absorb b).2.1 payload
    have hsource := count_flatMap_set Buffer.contents hb' (a.absorb b).2.2 payload
    have hjoint := congrArg (List.count payload) (Buffer.contents_absorb a b)
    simp only [held, List.flatten_nil, List.nil_append, List.append_nil, List.count_append]
      at hjoint ⊢
    omega
  · have hinto : (a.absorb b).2.1.capacity = a.capacity := rfl
    have hsource : (a.absorb b).2.2.capacity = b.capacity := rfl
    exact (map_capacity_set hb' hsource).trans (map_capacity_set ha hinto)
  · have hfitsInto := Buffer.fits_absorb_into (hfits a (List.mem_of_getElem? ha)) b
    have hfitsSource := Buffer.fits_absorb_source (hfits b (List.mem_of_getElem? hb)) a
    exact fits_set (fits_set hfits hfitsInto) hfitsSource

theorem exchange_step (p : Pool) (action : Action) :
    Exchange p (p.step action).2 (p.accepted action) (p.drained action) := by
  cases action with
  | buffer index action =>
      cases h : p.buffers[index]? with
      | none =>
          simp only [step, accepted, drained, h]
          exact .of_eq rfl
      | some b =>
          simp only [step, accepted, drained, h]
          exact exchange_set h (Buffer.exchange_step b p.toOutlet action) _
  | absorb into source =>
      simp only [step, accepted, drained]
      split
      · exact .of_eq rfl
      · rename_i hne
        split
        · rename_i a b ha hb
          exact exchange_absorb hne ha hb
        · exact .of_eq rfl
  | outlet action => exact .of_eq rfl

theorem exchange_run (p : Pool) (actions : List Action) :
    Exchange p (p.run actions) (p.along accepted actions) (p.along drained actions) := by
  induction actions generalizing p with
  | nil => exact .of_eq rfl
  | cons action actions ih => exact (exchange_step p action).trans (ih (p.step action).2)

/-! ### What happens to single buffers -/

/-- One buffer takes payloads out of another: as many of the oldest ones as there are and as
it has room for. The two together hold the same payloads in the same order as before, and
nothing else changes. -/
structure Moves (p : Pool) (into source : Nat) (a b : Buffer) : Prop where
  answer : (p.step (.absorb into source)).1 = .moved (min (a.capacity - a.size) b.size)
  contents : ∃ a' b', (p.step (.absorb into source)).2.buffers[into]? = some a' ∧
    (p.step (.absorb into source)).2.buffers[source]? = some b' ∧
    a'.contents ++ b'.contents = a.contents ++ b.contents ∧
    a'.size = a.size + min (a.capacity - a.size) b.size
  others : ∀ i, i ≠ into → i ≠ source →
    (p.step (.absorb into source)).2.buffers[i]? = p.buffers[i]?
  outlet : (p.step (.absorb into source)).2.toOutlet = p.toOutlet

/-- Buffers are merged with the oldest payloads first, and a buffer takes nothing from
itself. -/
structure MergesInOrder (p : Pool) : Prop where
  itself : ∀ i, p.step (.absorb i i) = (.moved 0, p)
  another : ∀ into source a b, into ≠ source → p.buffers[into]? = some a →
    p.buffers[source]? = some b → p.Moves into source a b

theorem step_absorb {p : Pool} {into source : Nat} {a b : Buffer} (hne : into ≠ source)
    (ha : p.buffers[into]? = some a) (hb : p.buffers[source]? = some b) :
    p.step (.absorb into source) = (.moved (a.moved b), { p with
      buffers := (p.buffers.set into (a.absorb b).2.1).set source (a.absorb b).2.2 }) := by
  simp only [step, if_neg hne, ha, hb, Buffer.absorb_eq]

theorem moves_of_ne {p : Pool} {into source : Nat} {a b : Buffer} (hne : into ≠ source)
    (ha : p.buffers[into]? = some a) (hb : p.buffers[source]? = some b) :
    p.Moves into source a b := by
  have hinto : into < p.buffers.length := (List.getElem?_eq_some_iff.1 ha).1
  have hsource : source < (p.buffers.set into (a.absorb b).2.1).length := by
    rw [List.length_set]
    exact (List.getElem?_eq_some_iff.1 hb).1
  refine ⟨?_, ⟨(a.absorb b).2.1, (a.absorb b).2.2, ?_, ?_, Buffer.contents_absorb a b,
    Buffer.size_absorb_into a b⟩, fun i hi hi' => ?_, ?_⟩
  · rw [step_absorb hne ha hb, Buffer.moved]
  · rw [step_absorb hne ha hb, List.getElem?_set_ne hne.symm, List.getElem?_set_self hinto]
  · rw [step_absorb hne ha hb, List.getElem?_set_self hsource]
  · rw [step_absorb hne ha hb, List.getElem?_set_ne hi'.symm, List.getElem?_set_ne hi.symm]
  · rw [step_absorb hne ha hb]

theorem mergesInOrder (p : Pool) : p.MergesInOrder where
  itself i := by rw [step, if_pos rfl]
  another _ _ _ _ hne ha hb := moves_of_ne hne ha hb

/-- A buffer with payloads in it is processed by offering all of them to the publisher at
once. If the publisher does not accept them they are handed back; the buffer is left empty
either way. -/
def ProcessesWhole (p : Pool) : Prop :=
  ∀ index b, p.buffers[index]? = some b → b.contents ≠ [] →
    let (answer, publisher, _) := p.publisher.publish p.clock b.contents
    let (reply, p') := p.step (.buffer index .process)
    reply = .buffer (.processed (Buffer.answerFor b.contents answer)) ∧
      p'.publisher = publisher ∧ p'.buffers = p.buffers.set index { capacity := b.capacity }

theorem processesWhole (p : Pool) : p.ProcessesWhole := by
  intro index b hb hne
  obtain ⟨hanswer, hbuffer, hpublisher, -⟩ := Buffer.process_of_ne_nil hne p.toOutlet
  simp only [step, hb, Buffer.step]
  exact ⟨by rw [hanswer], hpublisher, by rw [hbuffer]⟩

/-- Of a pool of new buffers, after any actions: as multisets, the payloads accepted so far
are those of the batches that left and those still held. The buffers are within their
capacities, they are processed as a whole and merged in order. -/
theorem pooled_payloads_conserved (o : Outlet) (capacities : List Nat) (actions : List Action) :
    let first : Pool :=
      { o with buffers := capacities.map fun capacity => { capacity := capacity } }
    let last := first.run actions
    (first.along accepted actions).Perm ((first.along drained actions).flatten ++ last.held) ∧
      last.buffers.map Buffer.capacity = capacities ∧
      (∀ b ∈ last.buffers, b.size ≤ b.capacity) ∧
      last.MergesInOrder ∧ last.ProcessesWhole := by
  intro first last
  have h : Exchange first last (first.along accepted actions) (first.along drained actions) :=
    exchange_run first actions
  have hnothing : first.held = [] := by
    simp [first, held, List.flatMap_map, Buffer.contents]
  have hcapacities : first.buffers.map Buffer.capacity = capacities := by
    simp [first, Function.comp_def]
  refine ⟨?_, h.capacities.trans hcapacities, h.fits ?_, mergesInOrder last,
    processesWhole last⟩
  · simpa only [hnothing, List.nil_append] using h.payloads
  · intro b hb
    obtain ⟨capacity, -, rfl⟩ := List.mem_map.1 hb
    exact Nat.zero_le capacity

end Pool

end SensorGateway
