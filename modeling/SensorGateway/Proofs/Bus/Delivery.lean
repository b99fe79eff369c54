import SensorGateway.Proofs.Bus.Ledger
import Mathlib.Order.Bounds.Basic

/-!
What a subscription gets to see: of the batches from its cursor on, some in the order in which
they were sent, and none twice. It misses a batch only if it fell behind by more than the
window.
-/

namespace SensorGateway

namespace Bus

namespace Session

def Action.receivesFor (sub : Nat) : Action → Bool
  | .tryReceive i | .receive i | .nextInStream i => i == sub
  | _ => false

def Reply.batch? : Reply → Option Batch
  | .received (.ok (some b)) | .polled (.ready (some b)) => some b
  | _ => none

/-- The batches that a subscription received, by what was done and answered. -/
def receivedFor (sub : Nat) : List Action → List Reply → List Batch
  | action :: actions, reply :: replies =>
    if action.receivesFor sub then reply.batch?.toList ++ receivedFor sub actions replies
    else receivedFor sub actions replies
  | _, _ => []

end Session

namespace Ledger

open Session (Action Reply receivedFor)

/-- Batches that were received from a cursor on, by their numbers in the ledger as it stands
at last. -/
structure InOrder (cursor : Nat) (last : Ledger) (numbers : List Nat) (received : List Batch) :
    Prop where
  batches : received.map some = numbers.map fun n => last.batches[n]?
  increasing : numbers.Pairwise (· < ·)
  start : ∀ n ∈ numbers, cursor ≤ n
  /-- Between numbers received, only what is no longer within the window was left out. -/
  missed : ∀ m ∈ numbers, ∀ n, cursor ≤ n → n < m → n ∉ numbers →
    n + last.window < last.batches.length

theorem InOrder.nil (cursor : Nat) (last : Ledger) : InOrder cursor last [] [] where
  batches := rfl
  increasing := .nil
  start := by simp
  missed := by simp

theorem InOrder.cons {cursor m : Nat} {last : Ledger} {numbers : List Nat}
    {received : List Batch} (h : InOrder (m + 1) last numbers received) {b : Batch}
    (hb : last.batches[m]? = some b) (hle : cursor ≤ m)
    (hmissed : ∀ n, cursor ≤ n → n < m → n + last.window < last.batches.length) :
    InOrder cursor last (m :: numbers) (b :: received) where
  batches := by rw [List.map_cons, List.map_cons, h.batches, hb]
  increasing := List.pairwise_cons.2 ⟨h.start, h.increasing⟩
  start n hn := by
    rcases List.mem_cons.1 hn with rfl | hn
    · exact hle
    · have := h.start n hn
      omega
  missed m' hm' n hcursor hlt hn := by
    obtain ⟨hne, hn⟩ := not_or.1 (mt List.mem_cons.2 hn)
    rcases Nat.lt_or_gt_of_ne hne with hbefore | hafter
    · exact hmissed n hcursor hbefore
    · rcases List.mem_cons.1 hm' with rfl | hm'
      · omega
      · exact h.missed m' hm' n hafter hlt hn

/-! ### What an action does to a ledger -/

section Read

variable (l : Ledger) (found : Batch → Reply) (nothing : Bool → Reply) (sub : Nat)

theorem read_eq : ∃ cursors, (l.read found nothing sub).2 = { l with cursors := cursors } := by
  unfold read
  split
  · split
    · exact ⟨_, rfl⟩
    · exact ⟨l.cursors, rfl⟩
  · exact ⟨l.cursors, rfl⟩

theorem getElem?_cursors_read_of_ne {i : Nat} (h : sub ≠ i) :
    (l.read found nothing sub).2.cursors[i]? = l.cursors[i]? := by
  unfold read
  split
  · split
    · exact List.getElem?_set_ne h
    · rfl
  · rfl

end Read

/-- Batches are only ever added, and the window stays. -/
structure Extends (l l' : Ledger) : Prop where
  batches : l.batches <+: l'.batches
  window : l'.window = l.window

theorem Extends.of_eq {l l' : Ledger} (hbatches : l'.batches = l.batches)
    (hwindow : l'.window = l.window) : Extends l l' :=
  ⟨hbatches ▸ List.prefix_rfl, hwindow⟩

theorem extends_read (l : Ledger) (found : Batch → Reply) (nothing : Bool → Reply)
    (sub : Nat) : l.Extends (l.read found nothing sub).2 := by
  obtain ⟨cursors, h⟩ := l.read_eq found nothing sub
  rw [h]
  exact .of_eq rfl rfl

theorem extends_step (l : Ledger) (action : Action) : l.Extends (l.step action).2 := by
  cases action with
  | subscribe =>
      simp only [step]
      split
      · exact .of_eq rfl rfl
      · exact .of_eq rfl rfl
  | publish payloads =>
      simp only [step]
      split
      · exact .of_eq rfl rfl
      · split
        · exact .of_eq rfl rfl
        · exact ⟨List.prefix_append _ _, rfl⟩
  | tryReceive sub => exact l.extends_read _ _ sub
  | receive sub => exact l.extends_read _ _ sub
  | nextInStream sub => exact l.extends_read _ _ sub
  | _ => exact .of_eq rfl rfl

theorem extends_run (l : Ledger) (actions : List Action) : l.Extends (l.run actions) := by
  induction actions generalizing l with
  | nil => exact .of_eq rfl rfl
  | cons action actions ih =>
      have hstep := l.extends_step action
      have hrest := ih (l.step action).2
      exact ⟨hstep.batches.trans hrest.batches, hrest.window.trans hstep.window⟩

/-! ### What an action does to a subscription -/

/-- Whatever the way to receive for a subscription, the ledger is read. -/
theorem step_of_receivesFor (l : Ledger) {sub : Nat} {action : Action}
    (h : action.receivesFor sub) :
    ∃ found nothing, l.step action = l.read found nothing sub ∧
      (∀ b, (found b).batch? = some b) ∧ ∀ closed, (nothing closed).batch? = none := by
  cases action with
  | tryReceive i | receive i | nextInStream i =>
      obtain rfl : i = sub := beq_iff_eq.1 h
      simp only [step]
      refine ⟨_, _, rfl, ?_, ?_⟩
      · exact fun _ => rfl
      · intro closed
        cases closed <;> rfl
  | _ => cases h

/-- No other action moves the cursor of a subscription. At most the subscription is dropped. -/
theorem cursors_step_of_not_receivesFor {l : Ledger} {sub : Nat} {action : Action}
    (h : ¬ action.receivesFor sub) {cursor : Option Nat} (hsub : l.cursors[sub]? = some cursor) :
    (l.step action).2.cursors[sub]? = some cursor ∨
      (l.step action).2.cursors[sub]? = some none := by
  have hlt : sub < l.cursors.length := (List.getElem?_eq_some_iff.1 hsub).1
  cases action with
  | move m => exact .inl hsub
  | close => exact .inl hsub
  | subscribe =>
      simp only [step]
      split
      · exact .inl hsub
      · exact .inl ((List.getElem?_append_left hlt).trans hsub)
  | publish payloads =>
      simp only [step]
      split
      · exact .inl hsub
      · split
        · exact .inl hsub
        · exact .inl hsub
  | tryReceive i | receive i | nextInStream i =>
      have hne : i ≠ sub := fun heq => h (beq_iff_eq.2 heq)
      exact .inl ((l.getElem?_cursors_read_of_ne _ _ i hne).trans hsub)
  | unsubscribe i =>
      by_cases heq : i = sub
      · rw [heq]
        exact .inr (List.getElem?_set_self hlt)
      · exact .inl ((List.getElem?_set_ne heq).trans hsub)

/-- A dropped subscription stays dropped, and receives nothing. -/
theorem step_dropped {l : Ledger} {sub : Nat} (h : l.cursors[sub]? = some none)
    (action : Action) :
    (l.step action).2.cursors[sub]? = some none ∧
      (action.receivesFor sub → (l.step action).1.batch? = none) := by
  by_cases hfor : action.receivesFor sub
  · obtain ⟨found, nothing, hstep, -⟩ := l.step_of_receivesFor hfor
    rw [hstep, read_absent found nothing (by simp [h])]
    exact ⟨h, fun _ => rfl⟩
  · exact ⟨(cursors_step_of_not_receivesFor hfor h).elim id id, fun h => absurd h hfor⟩

/-- An action reads the batch that is due under a cursor and moves the cursor just past it, or
the subscription receives nothing and is left as it is or dropped. -/
theorem step_cursor {l : Ledger} {sub cursor : Nat} (h : l.cursors[sub]? = some (some cursor))
    (action : Action) :
    (action.receivesFor sub ∧ ∃ b, l.batches[l.due cursor]? = some b ∧
        (l.step action).1.batch? = some b ∧
        (l.step action).2.cursors[sub]? = some (some (l.due cursor + 1))) ∨
      ((action.receivesFor sub → (l.step action).1.batch? = none) ∧
        ((l.step action).2.cursors[sub]? = some (some cursor) ∨
          (l.step action).2.cursors[sub]? = some none)) := by
  by_cases hfor : action.receivesFor sub
  · obtain ⟨found, nothing, hstep, hfound, hnothing⟩ := l.step_of_receivesFor hfor
    rw [hstep]
    cases hdue : l.batches[l.due cursor]? with
    | some b =>
        have hlt : sub < l.cursors.length := (List.getElem?_eq_some_iff.1 h).1
        rw [read_of_some found nothing h hdue]
        exact .inl ⟨hfor, b, rfl, hfound b, List.getElem?_set_self hlt⟩
    | none =>
        rw [read_of_none found nothing h hdue]
        exact .inr ⟨fun _ => hnothing l.closed, .inl h⟩
  · exact .inr ⟨fun h => absurd h hfor, cursors_step_of_not_receivesFor hfor h⟩

section

variable {l : Ledger} {sub : Nat} {action : Action} (actions : List Action)

theorem receivedFor_cons_of_batch (hfor : action.receivesFor sub) {b : Batch}
    (hb : (l.step action).1.batch? = some b) :
    receivedFor sub (action :: actions) (l.replies (action :: actions)) =
      b :: receivedFor sub actions ((l.step action).2.replies actions) := by
  rw [replies_cons, receivedFor, if_pos hfor, hb]
  rfl

theorem receivedFor_cons_of_nothing
    (h : action.receivesFor sub → (l.step action).1.batch? = none) :
    receivedFor sub (action :: actions) (l.replies (action :: actions)) =
      receivedFor sub actions ((l.step action).2.replies actions) := by
  rw [replies_cons, receivedFor]
  split
  · rename_i hfor
    rw [h hfor]
    rfl
  · rfl

end

theorem received_of_dropped {l : Ledger} {sub : Nat} (h : l.cursors[sub]? = some none)
    (actions : List Action) : receivedFor sub actions (l.replies actions) = [] := by
  induction actions generalizing l with
  | nil => rfl
  | cons action actions ih =>
      obtain ⟨hnext, hnothing⟩ := step_dropped h action
      rw [receivedFor_cons_of_nothing actions hnothing, ih hnext]

/-- From its cursor on, a subscription receives batches in order. -/
theorem received_inOrder {l : Ledger} {sub cursor : Nat}
    (h : l.cursors[sub]? = some (some cursor)) (actions : List Action) :
    ∃ numbers, InOrder cursor (l.run actions) numbers
      (receivedFor sub actions (l.replies actions)) := by
  -- each batch read moves the cursor past it, so that all later numbers are larger
  induction actions generalizing l cursor with
  | nil => exact ⟨[], .nil _ _⟩
  | cons action actions ih =>
      rcases step_cursor h action with ⟨hfor, b, hb, hreply, hnext⟩ | ⟨hnothing, hnext⟩
      · have hlast : l.Extends (l.run (action :: actions)) := l.extends_run (action :: actions)
        obtain ⟨numbers, hrest⟩ := ih hnext
        rw [receivedFor_cons_of_batch actions hfor hreply]
        refine ⟨l.due cursor :: numbers, hrest.cons ?_ (Nat.le_max_left _ _) ?_⟩
        · obtain ⟨hdue, rfl⟩ := List.getElem?_eq_some_iff.1 hb
          exact List.prefix_iff_getElem?.1 hlast.batches (l.due cursor) hdue
        · -- what is passed over was out of the window when the batch was read
          intro n hcursor hlt
          have hpassed : n < l.batches.length - l.window := by
            unfold due at hlt
            omega
          have hlength : l.batches.length ≤ (l.run (action :: actions)).batches.length :=
            hlast.batches.length_le
          have hwindow : (l.run (action :: actions)).window = l.window := hlast.window
          change n + (l.run (action :: actions)).window <
            (l.run (action :: actions)).batches.length
          omega
      · rw [receivedFor_cons_of_nothing actions hnothing]
        rcases hnext with hnext | hnext
        · exact ih hnext
        · rw [received_of_dropped hnext]
          exact ⟨[], .nil _ _⟩

end Ledger

namespace Session

/-- A new bus is followed by a new ledger. -/
theorem follows_new (topic : String) (capacity : Nat) (clock : Clock) :
    let bus : Bus := ⟨topic, capacity, 0, 0, [], [], false⟩
    (⟨clock, bus⟩ : Session).Follows { topic := topic, window := bus.window, clock := clock } where
  clock := rfl
  topic := rfl
  window := rfl
  attempts := rfl
  cursors := rfl
  closed := rfl
  batches := ⟨(Nat.zero_sub _).symm, rfl⟩

end Session

/-- A bus of any capacity delivers as a ledger says whose window is the least power of two not
below the capacity: all answers are those of the ledger, and so is the number of attempts.
Whatever a subscription receives from some cursor on are batches of the ledger by growing
numbers, and those left out between them were no longer within the window. -/
theorem delivers_by_number (topic : String) (capacity : Nat) (clock : Clock)
    (hpos : 0 < capacity) (hle : capacity ≤ maxSignedWord) :
    ∃ bus window, ofCapacity? topic capacity = some bus ∧
      IsLeast {n | n.isPowerOfTwo ∧ capacity ≤ n} window ∧
      let session : Session := ⟨clock, bus⟩
      let ledger : Ledger := { topic := topic, window := window, clock := clock }
      (∀ actions, session.replies actions = ledger.replies actions ∧
        (session.run actions).bus.attempts = (ledger.run actions).attempts) ∧
      ∀ before after sub cursor, (ledger.run before).cursors[sub]? = some (some cursor) →
        ∃ numbers, Ledger.InOrder cursor (ledger.run (before ++ after)) numbers
          (Session.receivedFor sub after ((session.run before).replies after)) := by
  have hnew := Session.follows_new topic capacity clock
  let bus : Bus := ⟨topic, capacity, 0, 0, [], [], false⟩
  refine ⟨bus, bus.window, if_pos ⟨hpos, hle⟩, bus.window_isLeast, fun actions => ?_, ?_⟩
  · obtain ⟨hreplies, hlast⟩ := hnew.run actions
    exact ⟨hreplies, hlast.attempts⟩
  · intro before after sub cursor hcursor
    obtain ⟨-, hbefore⟩ := hnew.run before
    obtain ⟨hreplies, -⟩ := hbefore.run after
    rw [hreplies, Ledger.run_append]
    exact Ledger.received_inOrder hcursor after

/-- With a capacity of three, four batches are kept. Of six batches a subscription that did not
read in between gets the third one next. -/
theorem delivers_by_number_lagSample :
    0 < 3 ∧ 3 ≤ maxSignedWord ∧ ∃ bus, ofCapacity? "bulk" 3 = some bus ∧
      (⟨{ time := 0, tick := 1 }, bus⟩ : Session).replies
        ([.publish ["lost"], .subscribe] ++
          ["0", "1", "2", "3", "4", "5"].map (fun payload => .publish [payload]) ++
          [.close, .tryReceive 0]) =
        [.published (.error (.noSubscribers "bulk")), .subscribed 0,
          .published (.ok 1), .published (.ok 1), .published (.ok 1), .published (.ok 1),
          .published (.ok 1), .published (.ok 1), .done,
          .received (.ok (some ⟨"bulk", ["2"], 3⟩))] := by
  obtain ⟨bus, window, hbus, hleast, hdelivers, -⟩ :=
    delivers_by_number "bulk" 3 { time := 0, tick := 1 } (by decide) (by decide)
  have hwindow : window = 4 := by
    have hfour : IsLeast {n | n.isPowerOfTwo ∧ 3 ≤ n} 4 :=
      window_isLeast ⟨"bulk", 3, 0, 0, [], [], false⟩
    exact hleast.unique hfour
  refine ⟨by decide, by decide, bus, hbus, ?_⟩
  rw [(hdelivers _).1, hwindow]
  rfl

end Bus

end SensorGateway
