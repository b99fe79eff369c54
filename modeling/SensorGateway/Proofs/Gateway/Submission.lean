import SensorGateway.Proofs.Gateway.Payloads

/-!
What submissions leave in the gateway. The records held do not change, so one look at them
decides about a whole batch: the buffer takes the payloads of the available sensors in their
order, as many as it has room for.
-/

namespace SensorGateway

theorem Buffer.eq_of_contents {b b' : Buffer} (hcapacity : b.capacity = b'.capacity)
    (hcontents : b.contents = b'.contents) : b = b' := by
  obtain ⟨capacity, pending⟩ := b
  obtain ⟨capacity', pending'⟩ := b'
  obtain rfl : capacity = capacity' := hcapacity
  obtain rfl : pending = pending' := Array.toList_inj.1 hcontents
  rfl

namespace Gateway

variable {ρ : Type}

theorem cache_admitOne (g : Gateway ρ) (tp : Nat) (m : Measurement) :
    (g.admitOne tp m).2.cache = g.cache := by
  obtain ⟨buffer, metrics, h⟩ := admitOne_snd g tp m
  rw [h]

theorem cache_admitAll (g : Gateway ρ) (tp : Nat) (ms : List Measurement) :
    (g.admitAll tp ms).2.cache = g.cache := by
  obtain ⟨buffer, metrics, h⟩ := admitAll_snd g tp ms
  rw [h]

theorem cache_submit (g : Gateway ρ) (m : Measurement) : (g.submit m).2.cache = g.cache :=
  cache_admitOne g.readClock.2 g.clock.now m

theorem cache_submitDocument (g : Gateway ρ) (payload : String) :
    (g.submitDocument payload).2.cache = g.cache := by
  rcases submitDocument_cases g payload with ⟨m, -, h⟩ | ⟨e, -, h⟩
  · rw [h, cache_submit]
  · rw [h]

theorem cache_submitBatch (g : Gateway ρ) (ms : List Measurement) :
    (g.submitBatch ms).2.cache = g.cache :=
  cache_admitAll g.readClock.2 g.clock.now ms

def availableOf (g : Gateway ρ) (tp : Nat) (ms : List Measurement) : List Measurement :=
  ms.filter fun m => g.cache.statusAt m.sensorId tp = .available

theorem availableOf_admitOne (g : Gateway ρ) (tp : Nat) (m : Measurement)
    (ms : List Measurement) : (g.admitOne tp m).2.availableOf tp ms = g.availableOf tp ms := by
  rw [availableOf, cache_admitOne, availableOf]

theorem availableOf_cons_of_available {g : Gateway ρ} {tp : Nat} {m : Measurement}
    (h : g.cache.statusAt m.sensorId tp = .available) (ms : List Measurement) :
    g.availableOf tp (m :: ms) = m :: g.availableOf tp ms :=
  List.filter_cons_of_pos (decide_eq_true h)

theorem availableOf_cons_of_ne {g : Gateway ρ} {tp : Nat} {m : Measurement}
    (h : g.cache.statusAt m.sensorId tp ≠ .available) (ms : List Measurement) :
    g.availableOf tp (m :: ms) = g.availableOf tp ms :=
  List.filter_cons_of_neg (by simpa using h)

/-- Of the available measurements the buffer takes as many of the first ones as there is
room for. -/
theorem contents_admitAll (g : Gateway ρ) (tp : Nat) (ms : List Measurement) :
    (g.admitAll tp ms).2.buffer.contents = g.buffer.contents ++
      ((g.availableOf tp ms).take g.buffer.room).map Measurement.payload := by
  induction ms generalizing g with
  | nil => simp [admitAll, availableOf]
  | cons m ms ih =>
      -- the records are the same for the rest of the batch, only the room is not
      have hstep := ih (g.admitOne tp m).2
      rw [availableOf_admitOne] at hstep
      refine hstep.trans ?_
      rcases admitOne_cases g tp m with ⟨hs, h⟩ | ⟨hs, h⟩ | ⟨hs, hroom, h⟩ | ⟨hs, hfull, h⟩
      · rw [h, availableOf_cons_of_ne (by simp [hs])]
      · rw [h, availableOf_cons_of_ne (by simp [hs])]
      · rw [h, availableOf_cons_of_available hs, Buffer.room_push hroom m.payload,
          List.take_succ_cons, List.map_cons, Buffer.contents_push, List.append_assoc]
        rfl
      · rw [h, Buffer.room_of_le hfull, List.take_zero, List.take_zero]

/-- Two batches with the same available measurements leave the same buffer. -/
theorem buffer_submitBatch_congr {g : Gateway ρ} {ms ms' : List Measurement}
    (h : g.availableOf g.clock.now ms = g.availableOf g.clock.now ms') :
    (g.submitBatch ms).2.buffer = (g.submitBatch ms').2.buffer := by
  have hcapacity : ∀ ms, (g.submitBatch ms).2.buffer.capacity = g.buffer.capacity := fun ms =>
    (exchange_admitAll g.readClock.2 g.clock.now ms).capacity
  have hcontents : ∀ ms, (g.submitBatch ms).2.buffer.contents = g.buffer.contents ++
      ((g.availableOf g.clock.now ms).take g.buffer.room).map Measurement.payload := fun ms =>
    contents_admitAll g.readClock.2 g.clock.now ms
  apply Buffer.eq_of_contents
  · rw [hcapacity, hcapacity]
  · rw [hcontents, hcontents, h]

end Gateway

end SensorGateway
