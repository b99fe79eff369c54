import SensorGateway.Bus.Session
import SensorGateway.Proofs.Bus.Window
import SensorGateway.Proofs.Runs

/-!
What a bus promises, said by numbers alone. All batches ever sent stand in a ledger, where
they are numbered from zero; a subscription is the number of the one to be read next. Kept
along with a bus, the ledger tells every answer of the bus.
-/

namespace SensorGateway

namespace Bus

structure Ledger where
  topic : String
  /-- How many of the last batches can still be read. -/
  window : Nat
  clock : Clock
  /-- The batches sent; the first one has the number zero. -/
  batches : List Batch := []
  /-- How often publishing was attempted. -/
  attempts : Nat := 0
  /-- For each subscription the number of the batch to be read next; none once dropped. -/
  cursors : List (Option Nat) := []
  closed : Bool := false

namespace Ledger

open Session (Action Reply)

def subscribers (l : Ledger) : Nat :=
  l.cursors.countP Option.isSome

/-- The number that is due under a cursor: that of the oldest batch which can still be read
if the cursor fell behind. -/
def due (l : Ledger) (cursor : Nat) : Nat :=
  max cursor (l.batches.length - l.window)

/-- Reads for a subscription. The cursor moves just past the batch, if one is due. -/
def read (l : Ledger) (found : Batch → Reply) (nothing : Bool → Reply) (sub : Nat) :
    Reply × Ledger :=
  match l.cursors[sub]? with
  | some (some cursor) =>
    match l.batches[l.due cursor]? with
    | some b => (found b, { l with cursors := l.cursors.set sub (some (l.due cursor + 1)) })
    | none => (nothing l.closed, l)
  | _ => (.absent, l)

def step (l : Ledger) : Action → Reply × Ledger
  | .move m => (.done, { l with clock := l.clock.move m })
  | .subscribe =>
    if l.closed then (.absent, l)
    else (.subscribed l.cursors.length,
      { l with cursors := l.cursors ++ [some l.batches.length] })
  | .publish payloads =>
    if l.closed then (.absent, l)
    else
      let attempted :=
        { l with attempts := l.attempts + 1, clock := l.clock.afterReading }
      if l.subscribers = 0 then (.published (.error (.noSubscribers l.topic)), attempted)
      else (.published (.ok l.subscribers), { attempted with
        batches := l.batches ++ [⟨l.topic, payloads, l.clock.now⟩] })
  | .tryReceive sub =>
    l.read (fun b => .received (.ok (some b)))
      (fun closed => .received (if closed then .error .closed else .ok none)) sub
  | .receive sub | .nextInStream sub =>
    l.read (fun b => .polled (.ready (some b)))
      (fun closed => .polled (if closed then .ready none else .pending)) sub
  | .unsubscribe sub => (.done, { l with cursors := l.cursors.set sub none })
  | .close => (.done, { l with closed := true })

def run (l : Ledger) (actions : List Action) : Ledger :=
  actions.foldl (fun l action => (l.step action).2) l

theorem run_append (l : Ledger) (actions actions' : List Action) :
    l.run (actions ++ actions') = (l.run actions).run actions' :=
  List.foldl_append

def replies (l : Ledger) (actions : List Action) : List Reply :=
  noteAlong (fun l action => (l.step action).2) (fun l action => [(l.step action).1]) l actions

theorem replies_cons (l : Ledger) (action : Action) (actions : List Action) :
    l.replies (action :: actions) = (l.step action).1 :: (l.step action).2.replies actions :=
  rfl

section

variable {l : Ledger} {sub : Nat} (found : Batch → Reply) (nothing : Bool → Reply)

theorem read_absent (h : ∀ cursor, l.cursors[sub]? ≠ some (some cursor)) :
    l.read found nothing sub = (.absent, l) := by
  unfold read
  split
  · exact absurd ‹_› (h _)
  · rfl

theorem read_of_some {cursor : Nat} (h : l.cursors[sub]? = some (some cursor)) {b : Batch}
    (hdue : l.batches[l.due cursor]? = some b) :
    l.read found nothing sub =
      (found b, { l with cursors := l.cursors.set sub (some (l.due cursor + 1)) }) := by
  simp only [read, h, hdue]

theorem read_of_none {cursor : Nat} (h : l.cursors[sub]? = some (some cursor))
    (hdue : l.batches[l.due cursor]? = none) :
    l.read found nothing sub = (nothing l.closed, l) := by
  simp only [read, h, hdue]

end

theorem step_publish_of_none {l : Ledger} (hclosed : l.closed = false)
    (hnone : l.subscribers = 0) (payloads : List String) :
    l.step (.publish payloads) = (.published (.error (.noSubscribers l.topic)), { l with
      attempts := l.attempts + 1
      clock := l.clock.afterReading }) := by
  simp only [step, hclosed, hnone, if_true, Bool.false_eq_true, if_false]

theorem step_publish_of_some {l : Ledger} (hclosed : l.closed = false)
    (hsome : l.subscribers ≠ 0) (payloads : List String) :
    l.step (.publish payloads) = (.published (.ok l.subscribers), { l with
      attempts := l.attempts + 1
      clock := l.clock.afterReading
      batches := l.batches ++ [⟨l.topic, payloads, l.clock.now⟩] }) := by
  simp only [step, hclosed, hsome, Bool.false_eq_true, if_false]

end Ledger

namespace Session

def replies (s : Session) (actions : List Action) : List Reply :=
  noteAlong (fun s action => (s.step action).2) (fun s action => [(s.step action).1]) s actions

theorem replies_cons (s : Session) (action : Action) (actions : List Action) :
    s.replies (action :: actions) = (s.step action).1 :: (s.step action).2.replies actions :=
  rfl

section

variable {s : Session} {sub : Nat} {α : Type} (way : Bus → Nat → α × Nat) (reply : α → Reply)

theorem receiveAt_absent (h : ∀ cursor, s.bus.cursors[sub]? ≠ some (some cursor)) :
    s.receiveAt way reply sub = (.absent, s) := by
  unfold receiveAt Bus.receiveAt
  split
  · rfl
  · rename_i heq
    split at heq
    · exact absurd ‹_› (h _)
    · cases heq

theorem receiveAt_of_cursor {cursor : Nat} (h : s.bus.cursors[sub]? = some (some cursor)) :
    s.receiveAt way reply sub = (reply (way s.bus cursor).1, { s with
      bus := { s.bus with
        cursors := s.bus.cursors.set sub (some (way s.bus cursor).2) } }) := by
  simp only [receiveAt, Bus.receiveAt, h]

end

theorem step_publish {s : Session} (h : s.bus.closed = false) (payloads : List String) :
    s.step (.publish payloads) = (.published (s.bus.publish s.clock.now payloads).1,
      ⟨s.clock.afterReading, (s.bus.publish s.clock.now payloads).2⟩) := by
  simp only [step, h, Bool.false_eq_true, if_false]

/-- A ledger says how a bus stands. -/
structure Follows (s : Session) (l : Ledger) : Prop where
  clock : s.clock = l.clock
  topic : s.bus.topic = l.topic
  window : s.bus.window = l.window
  attempts : s.bus.attempts = l.attempts
  cursors : s.bus.cursors = l.cursors
  closed : s.bus.closed = l.closed
  batches : s.bus.HasSent l.batches

namespace Follows

variable {s : Session} {l : Ledger}

theorem subscribers (h : s.Follows l) : s.bus.subscribers = l.subscribers := by
  rw [Bus.subscribers, h.cursors, Ledger.subscribers]

theorem due (h : s.Follows l) (cursor : Nat) : max cursor s.bus.lost = l.due cursor := by
  rw [h.batches.lost, h.window, Ledger.due]

theorem setCursors (h : s.Follows l) {cursors cursors' : List (Option Nat)}
    (heq : cursors = cursors') :
    ({ s with bus := { s.bus with cursors := cursors } } : Session).Follows
      { l with cursors := cursors' } :=
  { h with
    cursors := heq
    batches := h.batches.congr rfl rfl rfl }

/-- What a bus receives for a subscription, whatever the way, can be read in the ledger. -/
theorem receiveAt (h : s.Follows l) {α : Type} {way : Bus → Nat → α × Nat}
    {found : Batch → α} {nothing : Bool → α} (hway : Receives way found nothing)
    (reply : α → Reply) (sub : Nat) :
    let read := l.read (fun b => reply (found b)) (fun closed => reply (nothing closed)) sub
    (s.receiveAt way reply sub).1 = read.1 ∧ (s.receiveAt way reply sub).2.Follows read.2 := by
  by_cases hcursor : ∃ cursor, l.cursors[sub]? = some (some cursor)
  · obtain ⟨cursor, hcursor⟩ := hcursor
    have hcursor' : s.bus.cursors[sub]? = some (some cursor) := by rw [h.cursors, hcursor]
    have hread := hway.eq_of_hasSent h.batches cursor
    rw [h.due, h.closed] at hread
    rw [receiveAt_of_cursor way reply hcursor', hread]
    cases hdue : l.batches[l.due cursor]? with
    | some b =>
        rw [Ledger.read_of_some _ _ hcursor hdue]
        exact ⟨rfl, h.setCursors (by rw [h.cursors])⟩
    | none =>
        -- the cursor is set to where it is
        obtain ⟨hsub, heq⟩ := List.getElem?_eq_some_iff.1 hcursor'
        rw [Ledger.read_of_none _ _ hcursor hdue]
        refine ⟨rfl, ?_⟩
        rw [← heq, List.set_getElem_self]
        exact h
  · have habsent := not_exists.1 hcursor
    rw [Ledger.read_absent _ _ habsent, receiveAt_absent way reply (h.cursors ▸ habsent)]
    exact ⟨rfl, h⟩

theorem subscribe (h : s.Follows l) :
    (s.step .subscribe).1 = (l.step .subscribe).1 ∧
      (s.step .subscribe).2.Follows (l.step .subscribe).2 := by
  simp only [Session.step, Ledger.step, h.closed]
  split
  · exact ⟨rfl, h⟩
  · rw [Bus.subscribe, h.cursors, h.batches.sent]
    exact ⟨rfl, h.setCursors rfl⟩

theorem attempt (h : s.Follows l) :
    (⟨s.clock.afterReading, { s.bus with attempts := s.bus.attempts + 1 }⟩ : Session).Follows
      { l with attempts := l.attempts + 1, clock := l.clock.afterReading } where
  clock := by rw [h.clock]
  topic := h.topic
  window := h.window
  attempts := by rw [h.attempts]
  cursors := h.cursors
  closed := h.closed
  batches := h.batches.congr rfl rfl rfl

theorem send (h : s.Follows l) (b : Batch) :
    ({ s with bus := s.bus.send b } : Session).Follows
      { l with batches := l.batches ++ [b] } := by
  have hsent := h.batches.send b
  obtain ⟨kept, lost, hsend⟩ := Bus.send_eq s.bus b
  rw [hsend] at hsent ⊢
  exact { h with batches := hsent }

theorem publish (h : s.Follows l) (payloads : List String) :
    (s.step (.publish payloads)).1 = (l.step (.publish payloads)).1 ∧
      (s.step (.publish payloads)).2.Follows (l.step (.publish payloads)).2 := by
  cases hclosed : l.closed with
  | true =>
      rw [Session.step, if_pos (h.closed.trans hclosed), Ledger.step, if_pos hclosed]
      exact ⟨rfl, h⟩
  | false =>
      rw [step_publish (h.closed.trans hclosed)]
      by_cases hnone : l.subscribers = 0
      · rw [publish_of_none (h.subscribers.trans hnone),
          Ledger.step_publish_of_none hclosed hnone]
        exact ⟨by rw [h.topic], h.attempt⟩
      · have hbatch : (⟨s.bus.topic, payloads, s.clock.now⟩ : Batch) =
            ⟨l.topic, payloads, l.clock.now⟩ := by rw [h.topic, h.clock]
        rw [publish_of_some (h.subscribers ▸ hnone), hbatch,
          Ledger.step_publish_of_some hclosed hnone]
        exact ⟨by rw [h.subscribers], h.attempt.send _⟩

/-- Every action is answered as the ledger says, and the ledger can be kept on. -/
theorem step (h : s.Follows l) (action : Action) :
    (s.step action).1 = (l.step action).1 ∧ (s.step action).2.Follows (l.step action).2 := by
  cases action with
  | move m =>
      refine ⟨rfl, { h with clock := ?_ }⟩
      exact congrArg (Clock.move · m) h.clock
  | subscribe => exact h.subscribe
  | publish payloads => exact h.publish payloads
  | tryReceive sub => exact h.receiveAt receives_tryReceive .received sub
  | receive sub => exact h.receiveAt receives_receive .polled sub
  | nextInStream sub => exact h.receiveAt receives_nextInStream .polled sub
  | unsubscribe sub =>
      refine ⟨rfl, h.setCursors ?_⟩
      rw [h.cursors]
  | close => exact ⟨rfl, { h with closed := rfl, batches := h.batches.congr rfl rfl rfl }⟩

theorem run (h : s.Follows l) (actions : List Action) :
    s.replies actions = l.replies actions ∧ (s.run actions).Follows (l.run actions) := by
  induction actions generalizing s l with
  | nil => exact ⟨rfl, h⟩
  | cons action actions ih =>
      obtain ⟨hreply, hnext⟩ := h.step action
      obtain ⟨hreplies, hlast⟩ := ih hnext
      refine ⟨?_, hlast⟩
      rw [replies_cons, Ledger.replies_cons, hreply, hreplies]

end Follows

end Session

end Bus

end SensorGateway
