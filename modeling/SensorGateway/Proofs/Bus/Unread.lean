import SensorGateway.Outlet
import SensorGateway.Proofs.Bus.Window

/-!
What a subscription has yet to read. It attends as long as all of that is still kept. Then
publishing puts a batch behind it and receiving takes one from its front, up to a backlog of
as many batches as the window holds.
-/

namespace SensorGateway

namespace Bus

variable {bus bus' : Bus} {sub cursor : Nat}

/-- The number of batches sent that a subscription has not read. -/
def backlog (bus : Bus) (sub : Nat) : Nat :=
  match bus.cursors[sub]? with
  | some (some cursor) => bus.sent - cursor
  | _ => 0

/-- The batches kept that a subscription has not read, the oldest one first. -/
def unread (bus : Bus) (sub : Nat) : List Batch :=
  match bus.cursors[sub]? with
  | some (some cursor) => bus.kept.drop (cursor - bus.lost)
  | _ => []

theorem backlog_of_cursor (h : bus.cursors[sub]? = some (some cursor)) :
    bus.backlog sub = bus.sent - cursor := by
  simp only [backlog, h]

theorem unread_of_cursor (h : bus.cursors[sub]? = some (some cursor)) :
    bus.unread sub = bus.kept.drop (cursor - bus.lost) := by
  simp only [unread, h]

/-- A subscription is open, and no batch was lost before it could be read. -/
def Attends (bus : Bus) (sub : Nat) : Prop :=
  ∃ cursor, bus.cursors[sub]? = some (some cursor) ∧ bus.lost ≤ cursor ∧ cursor ≤ bus.sent

theorem attends_subscribe (bus : Bus) :
    bus.subscribe.Attends bus.cursors.length ∧ bus.subscribe.unread bus.cursors.length = [] := by
  have hcursor : bus.subscribe.cursors[bus.cursors.length]? = some (some bus.sent) := by
    simp [subscribe]
  refine ⟨⟨bus.sent, hcursor, Nat.le_add_right .., Nat.le_refl _⟩, ?_⟩
  rw [unread_of_cursor hcursor]
  simp [subscribe, sent]

theorem Attends.subscribers_ne_zero (h : bus.Attends sub) : bus.subscribers ≠ 0 := by
  obtain ⟨cursor, hcursor, -, -⟩ := h
  have hpos : 0 < bus.cursors.countP Option.isSome :=
    List.countP_pos_iff.2 ⟨some cursor, List.mem_of_getElem? hcursor, rfl⟩
  exact Nat.ne_of_gt hpos

/-- Between two states of a bus some batches are sent and some received by a subscription
that attends in the end: what it had to read and what is sent is what it receives and what
it still has to read, in this order. -/
structure Serves (bus bus' : Bus) (sub : Nat) (sent received : List Batch) : Prop where
  attends : bus'.Attends sub
  window : bus'.window = bus.window
  batches : bus.unread sub ++ sent = received ++ bus'.unread sub

/-- What happens to other subscriptions, and to the count of attempts, is no concern of a
subscription. -/
theorem Attends.serves (h : bus.Attends sub) (hcursor : bus'.cursors[sub]? = bus.cursors[sub]?)
    (hcapacity : bus'.capacity = bus.capacity) (hlost : bus'.lost = bus.lost)
    (hkept : bus'.kept = bus.kept) : Serves bus bus' sub [] [] := by
  obtain ⟨cursor, hsub, hle, hsent⟩ := h
  refine ⟨⟨cursor, hcursor.trans hsub, ?_, ?_⟩, ?_, ?_⟩
  · rwa [hlost]
  · rwa [sent, hlost, hkept]
  · rw [window, hcapacity, window]
  · rw [unread_of_cursor hsub, unread_of_cursor (hcursor.trans hsub), hlost, hkept,
      List.append_nil, List.nil_append]

/-- A batch that is sent comes last of those from a cursor on. The one that has to make room
for it was read before, if what is sent from the cursor on fits the window. -/
theorem kept_send (hle : bus.lost ≤ cursor) (hsent : cursor ≤ bus.sent) {b : Batch}
    (hpace : (bus.send b).sent - cursor ≤ bus.window) :
    (bus.send b).lost ≤ cursor ∧ cursor ≤ (bus.send b).sent ∧
      (bus.send b).kept.drop (cursor - (bus.send b).lost) =
        bus.kept.drop (cursor - bus.lost) ++ [b] := by
  have hwindow := bus.one_le_window
  unfold sent at hsent
  unfold send at hpace ⊢
  split at hpace
  · rename_i hroom
    have hmid : cursor - bus.lost ≤ bus.kept.length := by omega
    simp only [if_pos hroom, sent, List.length_append, List.length_singleton]
    refine ⟨hle, by omega, ?_⟩
    rw [List.drop_append_of_le_length hmid]
  · rename_i hfull
    simp only [sent, List.length_append, List.length_drop, List.length_singleton] at hpace
    have hread : bus.lost + 1 ≤ cursor := by omega
    have hmid : cursor - (bus.lost + 1) ≤ (bus.kept.drop 1).length := by
      rw [List.length_drop]
      omega
    have hnext : 1 + (cursor - (bus.lost + 1)) = cursor - bus.lost := by omega
    simp only [if_neg hfull, sent, List.length_append, List.length_drop, List.length_singleton]
    refine ⟨hread, by omega, ?_⟩
    rw [List.drop_append_of_le_length hmid, List.drop_drop, hnext]

theorem serves_send (h : bus.Attends sub) (b : Batch)
    (hpace : (bus.send b).backlog sub ≤ bus.window) :
    Serves bus (bus.send b) sub [b] [] := by
  obtain ⟨cursor, hsub, hle, hsent⟩ := h
  obtain ⟨kept, lost, heq⟩ := bus.send_eq b
  have hsub' : (bus.send b).cursors[sub]? = some (some cursor) := by
    rw [heq]
    exact hsub
  rw [backlog_of_cursor hsub'] at hpace
  obtain ⟨hle', hsent', hkept⟩ := kept_send hle hsent hpace
  refine ⟨⟨cursor, hsub', hle', hsent'⟩, ?_, ?_⟩
  · rw [heq]
    rfl
  · rw [unread_of_cursor hsub, unread_of_cursor hsub', hkept, List.nil_append]

/-- What is published is sent, since there is a subscription, and none of what was to be read
gets lost if the backlog stays within the window. -/
theorem serves_publish (h : bus.Attends sub) (now : Nat) (payloads : List String)
    (hpace : (bus.publish now payloads).2.backlog sub ≤ bus.window) :
    Serves bus (bus.publish now payloads).2 sub [⟨bus.topic, payloads, now⟩] [] := by
  rw [publish_of_some h.subscribers_ne_zero] at hpace ⊢
  let attempted : Bus := { bus with attempts := bus.attempts + 1 }
  have hattempted : attempted.Attends sub := h
  obtain ⟨hattends, hwindow, hbatches⟩ := serves_send hattempted _ hpace
  exact ⟨hattends, hwindow, hbatches⟩

/-- Reading moves the cursor past the first batch to be read. -/
theorem serves_read (hsub : bus.cursors[sub]? = some (some cursor)) (hle : bus.lost ≤ cursor)
    {b : Batch} (hget : bus.kept[cursor - bus.lost]? = some b) :
    Serves bus { bus with cursors := bus.cursors.set sub (some (cursor + 1)) } sub [] [b] := by
  obtain ⟨hlt, -⟩ := List.getElem?_eq_some_iff.1 hsub
  obtain ⟨hlen, hb⟩ := List.getElem?_eq_some_iff.1 hget
  have hsub' : (bus.cursors.set sub (some (cursor + 1)))[sub]? = some (some (cursor + 1)) :=
    List.getElem?_set_self hlt
  have hnext : cursor + 1 - bus.lost = cursor - bus.lost + 1 := by omega
  refine ⟨⟨cursor + 1, hsub', ?_, ?_⟩, rfl, ?_⟩
  · exact Nat.le_succ_of_le hle
  · change cursor + 1 ≤ bus.lost + bus.kept.length
    omega
  · rw [unread_of_cursor hsub, unread_of_cursor hsub', List.drop_eq_getElem_cons hlen, hb,
      List.append_nil, List.singleton_append, hnext]

theorem serves_unsubscribe (h : bus.Attends sub) {i : Nat} (hne : i ≠ sub) :
    Serves bus (bus.unsubscribe i) sub [] [] :=
  h.serves (List.getElem?_set_ne hne) rfl rfl rfl

theorem serves_subscribe (h : bus.Attends sub) : Serves bus bus.subscribe sub [] [] := by
  obtain ⟨cursor, hsub, -, -⟩ := id h
  have hlt : sub < bus.cursors.length := (List.getElem?_eq_some_iff.1 hsub).1
  exact h.serves (List.getElem?_append_left hlt) rfl rfl rfl

section Receiving

variable {α : Type} {way : Bus → Nat → α × Nat} {found : Batch → α} {nothing : Bool → α}

theorem receiveAt_of_cursor (h : bus.cursors[sub]? = some (some cursor)) :
    receiveAt way bus sub = (some (way bus cursor).1, { bus with
      cursors := bus.cursors.set sub (some (way bus cursor).2) }) := by
  simp only [receiveAt, h]

/-- Whatever the way, the first batch to be read is received. If there is none, nothing is. -/
theorem Receives.serves (hway : Receives way found nothing) (h : bus.Attends sub) :
    (∃ b, (receiveAt way bus sub).1 = some (found b) ∧
        Serves bus (receiveAt way bus sub).2 sub [] [b]) ∨
      ((receiveAt way bus sub).1 = some (nothing bus.closed) ∧
        Serves bus (receiveAt way bus sub).2 sub [] []) := by
  obtain ⟨cursor, hsub, hle, hsent⟩ := id h
  obtain ⟨hlt, -⟩ := List.getElem?_eq_some_iff.1 hsub
  rw [receiveAt_of_cursor hsub, hway.eq_of_le hle]
  cases hget : bus.kept[cursor - bus.lost]? with
  | some b => exact .inl ⟨b, rfl, serves_read hsub hle hget⟩
  | none =>
      -- the cursor is set to where it is
      refine .inr ⟨rfl, h.serves ?_ rfl rfl rfl⟩
      rw [hsub]
      exact List.getElem?_set_self hlt

theorem serves_receiveAt_of_ne (h : bus.Attends sub) {i : Nat} (hne : i ≠ sub)
    (way : Bus → Nat → α × Nat) : Serves bus (receiveAt way bus i).2 sub [] [] := by
  unfold receiveAt
  split
  · exact h.serves (List.getElem?_set_ne hne) rfl rfl rfl
  · exact h.serves rfl rfl rfl rfl

end Receiving

end Bus

/-! ### At an outlet -/

namespace Publisher

def backlog (sub : Nat) : Publisher → Nat
  | .bus b => b.backlog sub
  | _ => 0

def unread (sub : Nat) : Publisher → List Batch
  | .bus b => b.unread sub
  | _ => []

end Publisher

namespace Outlet

def Action.receivesFor (sub : Nat) : Action → Bool
  | .tryReceive i | .receive i | .nextInStream i => i == sub
  | _ => false

def Reply.batch? : Reply → Option Batch
  | .received (some (.ok (some b))) | .polled (some (.ready (some b))) => some b
  | _ => none

def Action.received (sub : Nat) (action : Action) (reply : Reply) : List Batch :=
  if action.receivesFor sub then reply.batch?.toList else []

/-- Whether an action neither drops a subscription nor publishes by itself. -/
def Action.LeavesOpen (sub : Nat) : Action → Prop
  | .publish _ => False
  | .unsubscribe i => i ≠ sub
  | _ => True

variable {o : Outlet} {bus : Bus} {sub : Nat}

theorem receiveAt_of_bus (hbus : o.publisher = .bus bus) {α : Type}
    (way : Bus → Nat → α × Nat) (i : Nat) :
    o.receiveAt way i = ((Bus.receiveAt way bus i).1,
      { o with publisher := .bus (Bus.receiveAt way bus i).2 }) := by
  simp only [receiveAt, hbus, Publisher.onBus]
  rfl

theorem serves_receiveAt (hbus : o.publisher = .bus bus) (h : bus.Attends sub) {α : Type}
    {way : Bus → Nat → α × Nat} {found : Batch → α} {nothing : Bool → α}
    (hway : Bus.Receives way found nothing) (reply : Option α → Reply)
    (hfound : ∀ b, (reply (some (found b))).batch? = some b)
    (hnothing : ∀ closed, (reply (some (nothing closed))).batch? = none) (i : Nat) :
    ∃ bus', (o.receiveAt way i).2.publisher = .bus bus' ∧ bus.Serves bus' sub []
      (if i == sub then (reply (o.receiveAt way i).1).batch?.toList else []) := by
  rw [receiveAt_of_bus hbus]
  refine ⟨_, rfl, ?_⟩
  by_cases hi : i = sub
  · subst hi
    rw [if_pos (beq_self_eq_true i)]
    rcases hway.serves h with ⟨b, hanswer, hserves⟩ | ⟨hanswer, hserves⟩
    · rw [hanswer, hfound]
      exact hserves
    · rw [hanswer, hnothing]
      exact hserves
  · rw [if_neg (by simpa using hi)]
    exact Bus.serves_receiveAt_of_ne h hi way

/-- Besides publishing, what is done at the outlet of a bus lets a subscription at most
receive the first batch it has to read. -/
theorem serves_step (hbus : o.publisher = .bus bus) (h : bus.Attends sub) {action : Action}
    (hopen : action.LeavesOpen sub) :
    ∃ bus', (o.step action).2.publisher = .bus bus' ∧
      bus.Serves bus' sub [] (action.received sub (o.step action).1) := by
  cases action with
  | publish payloads => exact hopen.elim
  | move m => exact ⟨bus, hbus, h.serves rfl rfl rfl rfl⟩
  | setFailing failing =>
      refine ⟨bus, ?_, h.serves rfl rfl rfl rfl⟩
      simp only [step, hbus, Publisher.setFailing]
  | subscribe =>
      refine ⟨bus.subscribe, ?_, Bus.serves_subscribe h⟩
      simp only [step, hbus, Publisher.onBus]
  | unsubscribe i =>
      refine ⟨bus.unsubscribe i, ?_, Bus.serves_unsubscribe h hopen⟩
      simp only [step, hbus, Publisher.onBus]
  | tryReceive i =>
      refine serves_receiveAt hbus h Bus.receives_tryReceive .received ?_ ?_ i
      · exact fun _ => rfl
      · exact fun closed => by cases closed <;> rfl
  | receive i =>
      refine serves_receiveAt hbus h Bus.receives_receive .polled ?_ ?_ i
      · exact fun _ => rfl
      · exact fun closed => by cases closed <;> rfl
  | nextInStream i =>
      refine serves_receiveAt hbus h Bus.receives_nextInStream .polled ?_ ?_ i
      · exact fun _ => rfl
      · exact fun closed => by cases closed <;> rfl

end Outlet

end SensorGateway
