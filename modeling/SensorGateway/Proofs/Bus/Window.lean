import SensorGateway.Bus.Receive
import Mathlib.Order.Bounds.Defs

/-!
The window of a bus against all batches that were ever sent. The window holds the last ones,
so what is read under a cursor is told by the number of the batch alone, and the ways to
receive differ only in their words for it.
-/

namespace SensorGateway

namespace Bus

/-- The window is the least power of two that is not below the capacity. -/
theorem window_isLeast (bus : Bus) :
    IsLeast {n | n.isPowerOfTwo ∧ bus.capacity ≤ n} bus.window := by
  rcases Nat.lt_or_ge 1 bus.capacity with h | h
  · rw [window, if_neg (Nat.not_le.2 h), Nat.one_shiftLeft]
    have hpred : bus.capacity - 1 ≠ 0 := by omega
    refine ⟨⟨⟨_, rfl⟩, ?_⟩, ?_⟩
    · exact Nat.le_of_pred_lt Nat.lt_log2_self
    · rintro _ ⟨⟨k, rfl⟩, hk⟩
      have hlog : (bus.capacity - 1).log2 < k := (Nat.log2_lt hpred).2 (by omega)
      exact Nat.pow_le_pow_right Nat.two_pos hlog
  · rw [window, if_pos h]
    refine ⟨⟨Nat.isPowerOfTwo_one, h⟩, ?_⟩
    rintro _ ⟨⟨k, rfl⟩, -⟩
    exact Nat.one_le_two_pow

theorem one_le_window (bus : Bus) : 1 ≤ bus.window :=
  Nat.pos_of_isPowerOfTwo bus.window_isLeast.1.1

/-- Sending changes nothing but what is kept and what is lost. -/
theorem send_eq (bus : Bus) (b : Batch) :
    ∃ kept lost, bus.send b = { bus with kept := kept, lost := lost } := by
  unfold send
  split
  · exact ⟨_, bus.lost, rfl⟩
  · exact ⟨_, _, rfl⟩

theorem publish_of_none {bus : Bus} (h : bus.subscribers = 0) (now : Nat)
    (payloads : List String) :
    bus.publish now payloads =
      (.error (.noSubscribers bus.topic), { bus with attempts := bus.attempts + 1 }) :=
  if_pos h

theorem publish_of_some {bus : Bus} (h : bus.subscribers ≠ 0) (now : Nat)
    (payloads : List String) :
    bus.publish now payloads = (.ok bus.subscribers,
      ({ bus with attempts := bus.attempts + 1 } : Bus).send ⟨bus.topic, payloads, now⟩) :=
  if_neg h

/-- All batches that were sent, the first one first: what a bus has lost and what it keeps are
told by the number of them. -/
structure HasSent (bus : Bus) (batches : List Batch) : Prop where
  lost : bus.lost = batches.length - bus.window
  kept : bus.kept = batches.drop bus.lost

namespace HasSent

variable {bus : Bus} {batches : List Batch}

theorem sent (h : bus.HasSent batches) : bus.sent = batches.length := by
  rw [Bus.sent, h.kept, List.length_drop, h.lost]
  omega

/-- Only the capacity, what is lost and what is kept matter. -/
theorem congr (h : bus.HasSent batches) {bus' : Bus} (hcapacity : bus'.capacity = bus.capacity)
    (hlost : bus'.lost = bus.lost) (hkept : bus'.kept = bus.kept) : bus'.HasSent batches where
  lost := by rw [hlost, window, hcapacity, h.lost, window]
  kept := by rw [hkept, hlost, h.kept]

theorem send (h : bus.HasSent batches) (b : Batch) :
    (bus.send b).HasSent (batches ++ [b]) := by
  have hwindow := bus.one_le_window
  have hlost := h.lost
  have hlength : bus.kept.length = batches.length - bus.lost := by
    rw [h.kept, List.length_drop]
  unfold Bus.send
  split
  · -- as long as there is room, nothing has been lost yet
    have hle : bus.lost ≤ batches.length := by omega
    refine ⟨?_, ?_⟩
    · change bus.lost = (batches ++ [b]).length - bus.window
      rw [List.length_append, List.length_singleton]
      omega
    · rw [List.drop_append_of_le_length hle, h.kept]
  · have hle : bus.lost + 1 ≤ batches.length := by omega
    refine ⟨?_, ?_⟩
    · change bus.lost + 1 = (batches ++ [b]).length - bus.window
      rw [List.length_append, List.length_singleton]
      omega
    · rw [List.drop_append_of_le_length hle, h.kept, List.drop_drop]

/-- What is kept is found under the number of a batch. -/
theorem getElem?_kept (h : bus.HasSent batches) {cursor : Nat} (hle : bus.lost ≤ cursor) :
    bus.kept[cursor - bus.lost]? = batches[cursor]? := by
  rw [h.kept, List.getElem?_drop, Nat.add_sub_cancel' hle]

/-- A cursor behind the window is never at the end. -/
theorem max_eq_left_of_length_le (h : bus.HasSent batches) {cursor : Nat}
    (hle : batches.length ≤ max cursor bus.lost) : max cursor bus.lost = cursor := by
  have hwindow := bus.one_le_window
  have hlost := h.lost
  omega

end HasSent

theorem look_of_lt {bus : Bus} {cursor : Nat} (h : cursor < bus.lost) :
    bus.look cursor = (.lagged (bus.lost - cursor), bus.lost) :=
  if_pos h

theorem look_of_le {bus : Bus} {cursor : Nat} (h : bus.lost ≤ cursor) :
    bus.look cursor =
      match bus.kept[cursor - bus.lost]? with
      | some b => (.batch b, cursor + 1)
      | none => (if bus.closed then .closed else .empty, cursor) :=
  if_neg (Nat.not_lt.2 h)

/-- A way to receive. It has its words for a batch that is found and for having found nothing,
on a bus that was dropped or not, and it looks again if batches were missed. -/
def Receives {α : Type} (way : Bus → Nat → α × Nat) (found : Batch → α)
    (nothing : Bool → α) : Prop :=
  ∀ (bus : Bus) cursor, way bus cursor =
    match bus.look cursor with
    | (.batch b, next) => (found b, next)
    | (.closed, next) => (nothing true, next)
    | (.empty, next) => (nothing false, next)
    | (.lagged _, next) => way bus next

/-- What is answered to a try if there is nothing to receive. -/
def noneToTry (closed : Bool) : Except SubscriptionError (Option Batch) :=
  if closed then .error .closed else .ok none

/-- What is answered if there is nothing to receive, or nothing yet. -/
def noneToAwait (closed : Bool) : Poll (Option Batch) :=
  if closed then .ready none else .pending

theorem receives_tryReceive : Receives tryReceive (fun b => .ok (some b)) noneToTry := by
  intro bus cursor
  rw [tryReceive]
  split <;> rename_i hlook <;> rw [hlook] <;> rfl

theorem receives_receive : Receives receive (fun b => .ready (some b)) noneToAwait := by
  intro bus cursor
  rw [receive]
  split <;> rename_i hlook <;> rw [hlook] <;> rfl

theorem nextInStream_eq (bus : Bus) (cursor : Nat) : bus.nextInStream cursor =
    match bus.item cursor with
    | (.ready (some (.ok b)), next) => (.ready (some b), next)
    | (.ready (some (.error _)), next) => bus.nextInStream next
    | (.ready none, next) => (.ready none, next)
    | (.pending, next) => (.pending, next) := by
  rw [nextInStream]
  split <;> rename_i hitem <;> rw [hitem]

theorem receives_nextInStream :
    Receives nextInStream (fun b => .ready (some b)) noneToAwait := by
  intro bus cursor
  rw [nextInStream_eq, item]
  obtain ⟨look, next⟩ := bus.look cursor
  cases look <;> rfl

namespace Receives

variable {α : Type} {way : Bus → Nat → α × Nat} {found : Batch → α} {nothing : Bool → α}

/-- A cursor behind the window is moved up to it. -/
theorem eq_of_lt (h : Receives way found nothing) {bus : Bus} {cursor : Nat}
    (hlt : cursor < bus.lost) : way bus cursor = way bus bus.lost := by
  rw [h bus cursor, look_of_lt hlt]

theorem eq_of_le (h : Receives way found nothing) {bus : Bus} {cursor : Nat}
    (hle : bus.lost ≤ cursor) : way bus cursor =
      match bus.kept[cursor - bus.lost]? with
      | some b => (found b, cursor + 1)
      | none => (nothing bus.closed, cursor) := by
  rw [h bus cursor, look_of_le hle]
  cases bus.kept[cursor - bus.lost]? with
  | some b => rfl
  | none => cases bus.closed <;> rfl

/-- Whatever the way: what is received is the batch under the cursor, or the oldest one kept
if that is further on. -/
theorem eq_of_hasSent (h : Receives way found nothing) {bus : Bus} {batches : List Batch}
    (hsent : bus.HasSent batches) (cursor : Nat) :
    way bus cursor =
      match batches[max cursor bus.lost]? with
      | some b => (found b, max cursor bus.lost + 1)
      | none => (nothing bus.closed, cursor) := by
  have hmax : way bus cursor = way bus (max cursor bus.lost) := by
    rcases Nat.lt_or_ge cursor bus.lost with hlt | hge
    · rw [h.eq_of_lt hlt, Nat.max_eq_right (Nat.le_of_lt hlt)]
    · rw [Nat.max_eq_left hge]
  rw [hmax, h.eq_of_le (Nat.le_max_right _ _), hsent.getElem?_kept (Nat.le_max_right _ _)]
  split
  · rfl
  · rename_i hnone
    rw [hsent.max_eq_left_of_length_le (List.getElem?_eq_none_iff.1 hnone)]

end Receives

end Bus

end SensorGateway
