import SensorGateway.Buffer

/-!
What a buffer holds, as a list. Each operation has a lemma that says what it does to the
list. `Exchange` puts down what goes in and out between two states of a buffer: exchanges
follow one another, and every action is one.
-/

namespace SensorGateway

namespace Buffer

def contents (b : Buffer) : List String :=
  b.pending.toList

@[simp] theorem length_contents (b : Buffer) : b.contents.length = b.size :=
  Array.length_toList

theorem contents_eq_nil_iff {b : Buffer} : b.contents = [] ↔ b.pending = #[] :=
  Array.toList_eq_nil_iff

theorem push_of_lt {b : Buffer} (h : b.size < b.capacity) (payload : String) (m : Metrics) :
    b.push payload m = (.ok (), { b with pending := b.pending.push payload },
      { m with pending := m.pending + 1 }) :=
  if_pos h

/-- A full buffer refuses a payload, hands it back and stays as it is. -/
theorem push_of_le {b : Buffer} (h : b.capacity ≤ b.size) (payload : String) (m : Metrics) :
    b.push payload m =
      (.error (.full b.capacity payload), b, { m with overflows := m.overflows + 1 }) :=
  if_neg (Nat.not_lt.2 h)

theorem contents_push (b : Buffer) (payload : String) :
    contents { b with pending := b.pending.push payload } = b.contents ++ [payload] :=
  Array.toList_push

theorem room_push {b : Buffer} (h : b.size < b.capacity) (payload : String) :
    b.room = room { b with pending := b.pending.push payload } + 1 := by
  simp only [room, size, Array.size_push] at h ⊢
  omega

theorem room_of_le {b : Buffer} (h : b.capacity ≤ b.size) : b.room = 0 :=
  Nat.sub_eq_zero_of_le h

theorem pushAll_cons_of_lt {b : Buffer} (h : b.size < b.capacity) (m : Metrics)
    (payload : String) (payloads : List String) :
    b.pushAll m (payload :: payloads) =
      (({ b with pending := b.pending.push payload } : Buffer).pushAll
        { m with pending := m.pending + 1 } payloads).map (· + 1) id := by
  rw [pushAll, push_of_lt h]
  rfl

theorem pushAll_cons_of_le {b : Buffer} (h : b.capacity ≤ b.size) (m : Metrics)
    (payload : String) (payloads : List String) :
    b.pushAll m (payload :: payloads) =
      b.pushAll { m with overflows := m.overflows + 1 } payloads := by
  rw [pushAll, push_of_le h]

/-- Of several payloads a buffer takes as many of the first ones as there is room for. -/
theorem pushAll_spec (b : Buffer) (m : Metrics) (payloads : List String) :
    (b.pushAll m payloads).1 = min payloads.length b.room ∧
      (b.pushAll m payloads).2.1.capacity = b.capacity ∧
      (b.pushAll m payloads).2.1.contents = b.contents ++ payloads.take b.room := by
  induction payloads generalizing b m with
  | nil => simp [pushAll]
  | cons payload payloads ih =>
      rcases Nat.lt_or_ge b.size b.capacity with h | h
      · rw [pushAll_cons_of_lt h]
        obtain ⟨hn, hcap, hcontents⟩ := ih { b with pending := b.pending.push payload }
          { m with pending := m.pending + 1 }
        refine ⟨?_, hcap, ?_⟩
        · rw [Prod.map_fst, hn, room_push h payload, List.length_cons]
          omega
        · rw [Prod.map_snd, id, hcontents, contents_push, room_push h payload, List.take_succ_cons,
            List.append_assoc]
          rfl
      · rw [pushAll_cons_of_le h]
        obtain ⟨hn, hcap, hcontents⟩ := ih b { m with overflows := m.overflows + 1 }
        refine ⟨?_, hcap, ?_⟩
        · rw [hn, room_of_le h, Nat.min_zero, Nat.min_zero]
        · rw [hcontents, room_of_le h, List.take_zero, List.take_zero]

theorem drain_eq (b : Buffer) (m : Metrics) :
    b.drain m = (b.contents, { b with pending := #[] },
      { m with pending := m.pending - b.size }) :=
  rfl

theorem process_of_nil {b : Buffer} (h : b.contents = []) (o : Outlet) :
    b.process o = (.ok 0, b, o) := by
  obtain ⟨capacity, pending⟩ := b
  obtain rfl : pending = #[] := contents_eq_nil_iff.1 h
  rfl

/-- What is answered after a batch was offered: its length, or the batch itself together
with the refusal of the publisher. -/
def answerFor (batch : List String) : Except PublishError Nat → Except BufferError Nat
  | .ok _ => .ok batch.length
  | .error source => .error (.publishFailed source batch)

/-- The contents are offered to the publisher as one batch, and the buffer is left empty
whatever the publisher answers. -/
theorem process_of_ne_nil {b : Buffer} (h : b.contents ≠ []) (o : Outlet) :
    (b.process o).1 = answerFor b.contents (o.publisher.publish o.clock b.contents).1 ∧
      (b.process o).2.1 = { b with pending := #[] } ∧
      (b.process o).2.2.publisher = (o.publisher.publish o.clock b.contents).2.1 ∧
      (b.process o).2.2.clock = (o.publisher.publish o.clock b.contents).2.2 := by
  rw [process, drain_eq]
  simp only [if_neg h, Outlet.publish]
  rcases o.publisher.publish o.clock b.contents with ⟨_ | _, publisher, clock⟩
  · exact ⟨rfl, rfl, rfl, rfl⟩
  · exact ⟨rfl, rfl, rfl, rfl⟩

def Action.accepted : Action → Reply → List String
  | .push payload, .pushed (.ok ()) => [payload]
  | .pushAll payloads, .taken n => payloads.take n
  | _, _ => []

/-- The batches that were taken out, as an action was answered: the contents if they were
published, and else what is handed back. -/
def drained (b : Buffer) : Action → Reply → List (List String)
  | .process, .processed (.ok n) => if n = 0 then [] else [b.contents]
  | .process, .processed (.error e) => [e.payloads]
  | .drain, .drained payloads => [payloads]
  | _, _ => []

/-- Between two states of a buffer some payloads are accepted and some batches taken out:
what was held and what is accepted is what leaves and what is held afterwards, in this
order. The capacity stays, and the buffer is not filled beyond it. -/
structure Exchange (b b' : Buffer) (accepted : List String) (drained : List (List String)) :
    Prop where
  contents : b.contents ++ accepted = drained.flatten ++ b'.contents
  capacity : b'.capacity = b.capacity
  fits : b.size ≤ b.capacity → b'.size ≤ b'.capacity

theorem Exchange.refl (b : Buffer) : Exchange b b [] [] :=
  ⟨List.append_nil _, rfl, id⟩

theorem Exchange.of_eq {b b' : Buffer} (h : b' = b) : Exchange b b' [] [] :=
  h ▸ .refl b

theorem Exchange.trans {a b c : Buffer} {accepted accepted' : List String}
    {drained drained' : List (List String)} (h : Exchange a b accepted drained)
    (h' : Exchange b c accepted' drained') :
    Exchange a c (accepted ++ accepted') (drained ++ drained') where
  contents := by
    rw [← List.append_assoc, h.contents, List.append_assoc, h'.contents,
      ← List.append_assoc, List.flatten_append]
  capacity := h'.capacity.trans h.capacity
  fits := h'.fits ∘ h.fits

theorem exchange_push {b : Buffer} (h : b.size < b.capacity) (payload : String) :
    Exchange b { b with pending := b.pending.push payload } [payload] [] where
  contents := (contents_push b payload).symm
  capacity := rfl
  fits _ := by
    rw [size, Array.size_push]
    exact h

theorem exchange_drain (b : Buffer) : Exchange b { b with pending := #[] } [] [b.contents] where
  contents := by rw [List.flatten_singleton]; rfl
  capacity := rfl
  fits _ := Nat.zero_le _

theorem exchange_pushAll (b : Buffer) (m : Metrics) (payloads : List String) :
    Exchange b (b.pushAll m payloads).2.1 (payloads.take (b.pushAll m payloads).1) [] := by
  obtain ⟨hn, hcap, hcontents⟩ := pushAll_spec b m payloads
  have htake : payloads.take (min payloads.length b.room) = payloads.take b.room := by
    rw [Nat.min_comm, ← List.take_eq_take_min]
  refine ⟨?_, hcap, ?_⟩
  · rw [hn, htake, hcontents]
    rfl
  · intro hb
    rw [← length_contents, hcontents, List.length_append, List.length_take, length_contents,
      hcap, room]
    omega

theorem exchange_step (b : Buffer) (o : Outlet) (action : Action) :
    Exchange b (b.step o action).2.1 (action.accepted (b.step o action).1)
      (b.drained action (b.step o action).1) := by
  cases action with
  | push payload =>
      simp only [step]
      rcases Nat.lt_or_ge b.size b.capacity with h | h
      · rw [push_of_lt h]
        exact exchange_push h payload
      · rw [push_of_le h]
        exact .refl b
  | pushAll payloads => exact exchange_pushAll b o.metrics payloads
  | process =>
      simp only [step]
      by_cases h : b.contents = []
      · rw [process_of_nil h]
        exact .refl b
      · obtain ⟨hanswer, hb, -, -⟩ := process_of_ne_nil h o
        rw [hanswer, hb]
        cases (o.publisher.publish o.clock b.contents).1 with
        | error source => exact exchange_drain b
        | ok n =>
            have hlen : b.contents.length ≠ 0 := fun h0 => h (List.length_eq_zero_iff.1 h0)
            simp only [answerFor, drained, if_neg hlen]
            exact exchange_drain b
  | drain => exact exchange_drain b

/-! ### Merging -/

def moved (into source : Buffer) : Nat :=
  min (into.capacity - into.size) source.size

theorem absorb_eq (into source : Buffer) :
    into.absorb source = (into.moved source,
      { into with pending := into.pending ++ source.pending.extract 0 (into.moved source) },
      { source with
        pending := source.pending.extract (into.moved source) source.size }) :=
  rfl

/-- The oldest payloads are appended to the ones that were there. -/
theorem contents_absorb_into (into source : Buffer) :
    (into.absorb source).2.1.contents =
      into.contents ++ source.contents.take (into.moved source) := by
  simp [absorb_eq, contents]

theorem contents_absorb_source (into source : Buffer) :
    (into.absorb source).2.2.contents = source.contents.drop (into.moved source) := by
  rw [absorb_eq, contents, Array.toList_extract, List.extract_eq_take_drop]
  apply List.take_of_length_le
  exact Nat.le_of_eq (by rw [List.length_drop, Array.length_toList, size])

theorem contents_absorb (into source : Buffer) :
    (into.absorb source).2.1.contents ++ (into.absorb source).2.2.contents =
      into.contents ++ source.contents := by
  rw [contents_absorb_into, contents_absorb_source, List.append_assoc, List.take_append_drop]

theorem size_absorb_into (into source : Buffer) :
    (into.absorb source).2.1.size = into.size + into.moved source := by
  rw [← length_contents, contents_absorb_into, List.length_append, List.length_take,
    length_contents, length_contents, moved]
  omega

theorem size_absorb_source (into source : Buffer) :
    (into.absorb source).2.2.size = source.size - into.moved source := by
  rw [← length_contents, contents_absorb_source, List.length_drop, length_contents]

/-- A buffer takes no more from another one than it has room for. -/
theorem fits_absorb_into {into : Buffer} (h : into.size ≤ into.capacity) (source : Buffer) :
    (into.absorb source).2.1.size ≤ (into.absorb source).2.1.capacity := by
  rw [size_absorb_into, absorb_eq, moved]
  show _ ≤ into.capacity
  omega

theorem fits_absorb_source {source : Buffer} (h : source.size ≤ source.capacity)
    (into : Buffer) :
    (into.absorb source).2.2.size ≤ (into.absorb source).2.2.capacity := by
  rw [size_absorb_source, absorb_eq]
  exact Nat.le_trans (Nat.sub_le _ _) h

end Buffer

end SensorGateway
