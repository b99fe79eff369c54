import SensorGateway.Proofs.Bus.Delivery
import SensorGateway.Proofs.Bus.Unread

/-!
Receiving until there is nothing left. The three ways to receive look again when they are told
of missed batches, once at most, and what they then say differs in words only. So a
subscription gets the same batches to its end, whichever way it is asked each time.
-/

namespace SensorGateway

namespace Bus

/-! ### Looking again -/

/-- A loop that looks until it is not told of missed batches: the reports that it passes over,
and what it sees at last. -/
inductive Settles {β : Type} (look : Nat → β × Nat) (missed? : β → Option Nat) :
    Nat → List Nat → β × Nat → Prop
  | done {cursor : Nat} (h : missed? (look cursor).1 = none) :
      Settles look missed? cursor [] (look cursor)
  | again {cursor missed : Nat} {reports : List Nat} {last : β × Nat}
      (h : missed? (look cursor).1 = some missed)
      (hrest : Settles look missed? (look cursor).2 reports last) :
      Settles look missed? cursor (missed :: reports) last

def Look.missed? : Look → Option Nat
  | .lagged missed => some missed
  | _ => none

def Look.answer? {α : Type} (found : Batch → α) (nothing : Bool → α) : Look → Option α
  | .batch b => some (found b)
  | .lagged _ => none
  | .empty => some (nothing false)
  | .closed => some (nothing true)

def missedItem? : Poll (Option (Except Nat Batch)) → Option Nat
  | .ready (some (.error missed)) => some missed
  | _ => none

/-- What is passed on of a stream with all reports of missed batches left out. -/
def passedOn? : Poll (Option (Except Nat Batch)) → Option (Poll (Option Batch))
  | .ready (some (.ok b)) => some (.ready (some b))
  | .ready (some (.error _)) => none
  | .ready none => some (.ready none)
  | .pending => some .pending

/-- A loop ends after one report at most. It stops where the answer of the call says, and the
answer is the one to what was seen at last. -/
def EndsAfterOneReport {α β : Type} (look : Nat → β × Nat) (missed? : β → Option Nat)
    (answer? : β → Option α) (cursor : Nat) (call : α × Nat) : Prop :=
  ∃ reports seen, Settles look missed? cursor reports (seen, call.2) ∧ reports.length ≤ 1 ∧
    answer? seen = some call.1

theorem missed?_look_of_le {bus : Bus} {cursor : Nat} (h : bus.lost ≤ cursor) :
    (bus.look cursor).1.missed? = none := by
  rw [look_of_le h]
  split
  · rfl
  · split <;> rfl

section

variable {α : Type} {way : Bus → Nat → α × Nat} {found : Batch → α} {nothing : Bool → α}

theorem Receives.exists_look (hway : Receives way found nothing) {bus : Bus} {cursor : Nat}
    (h : (bus.look cursor).1.missed? = none) :
    ∃ seen, bus.look cursor = (seen, (way bus cursor).2) ∧ seen.missed? = none ∧
      seen.answer? found nothing = some (way bus cursor).1 := by
  have hcall := hway bus cursor
  cases hlook : bus.look cursor with
  | mk seen next =>
      rw [hlook] at h hcall
      rw [hcall]
      cases seen with
      | lagged missed => cases h
      | _ => exact ⟨_, rfl, rfl, rfl⟩

/-- After a report the cursor stands at the oldest batch kept, so there is no second one. -/
theorem Receives.endsAfterOneReport (hway : Receives way found nothing) (bus : Bus)
    (cursor : Nat) :
    EndsAfterOneReport bus.look Look.missed? (Look.answer? found nothing) cursor
      (way bus cursor) := by
  rcases Nat.lt_or_ge cursor bus.lost with hlt | hge
  · obtain ⟨seen, hlook, hnone, hanswer⟩ :=
      hway.exists_look (missed?_look_of_le (Nat.le_refl bus.lost))
    have hreport : bus.look cursor = (.lagged (bus.lost - cursor), bus.lost) := look_of_lt hlt
    rw [hway.eq_of_lt hlt]
    refine ⟨[bus.lost - cursor], seen, .again (by rw [hreport]; rfl) ?_, Nat.le_refl 1, hanswer⟩
    rw [hreport, ← hlook]
    exact .done (by rw [hlook, hnone])
  · obtain ⟨seen, hlook, hnone, hanswer⟩ := hway.exists_look (missed?_look_of_le hge)
    refine ⟨[], seen, ?_, Nat.zero_le 1, hanswer⟩
    rw [← hlook]
    exact .done (by rw [hlook, hnone])

end

def Look.item : Look → Poll (Option (Except Nat Batch))
  | .batch b => .ready (some (.ok b))
  | .lagged missed => .ready (some (.error missed))
  | .empty => .pending
  | .closed => .ready none

theorem item_eq (bus : Bus) (cursor : Nat) :
    bus.item cursor = ((bus.look cursor).1.item, (bus.look cursor).2) := by
  rw [Bus.item]
  obtain ⟨seen, next⟩ := bus.look cursor
  cases seen <;> rfl

theorem Settles.item {bus : Bus} {cursor : Nat} {reports : List Nat} {last : Look × Nat}
    (h : Settles bus.look Look.missed? cursor reports last) :
    Settles bus.item missedItem? cursor reports (last.1.item, last.2) := by
  have hmissed : ∀ seen : Look, missedItem? seen.item = seen.missed? := by
    intro seen
    cases seen <;> rfl
  induction h with
  | @done cursor hnone =>
      rw [← item_eq]
      refine .done ?_
      rw [item_eq, hmissed, hnone]
  | @again cursor missed reports last hsome _ ih =>
      refine .again ?_ ?_
      · rw [item_eq, hmissed, hsome]
      · rw [item_eq]
        exact ih

/-- In each of the three ways to receive, a call is told of missed batches once at most. A
stream is told by its own items. -/
structure LagsOnce (bus : Bus) (cursor : Nat) : Prop where
  tryReceive : EndsAfterOneReport bus.look Look.missed?
    (Look.answer? (fun b => .ok (some b)) noneToTry) cursor (bus.tryReceive cursor)
  receive : EndsAfterOneReport bus.look Look.missed?
    (Look.answer? (fun b => .ready (some b)) noneToAwait) cursor (bus.receive cursor)
  nextInStream : EndsAfterOneReport bus.item missedItem? passedOn? cursor
    (bus.nextInStream cursor)

theorem lagsOnce (bus : Bus) (cursor : Nat) : bus.LagsOnce cursor where
  tryReceive := receives_tryReceive.endsAfterOneReport bus cursor
  receive := receives_receive.endsAfterOneReport bus cursor
  nextInStream := by
    obtain ⟨reports, seen, hsettles, hlength, hanswer⟩ :=
      receives_nextInStream.endsAfterOneReport bus cursor
    refine ⟨reports, seen.item, hsettles.item, hlength, ?_⟩
    rw [← hanswer]
    cases seen <;> rfl

/-! ### One call -/

/-- The answer of a call and the batches that are then still to be read, by those that were to
be read before. -/
def Takes {α : Type} (found : Batch → α) (nothing : Bool → α) (bus : Bus) (cursor : Nat)
    (call : α × Nat) : Prop :=
  let unread := bus.kept.drop (cursor - bus.lost)
  (call.1 = match unread.head? with
    | some b => found b
    | none => nothing bus.closed) ∧ bus.kept.drop (call.2 - bus.lost) = unread.tail

section

variable {α : Type} {way : Bus → Nat → α × Nat} {found : Batch → α} {nothing : Bool → α}

theorem Receives.takes_of_le (hway : Receives way found nothing) {bus : Bus} {cursor : Nat}
    (hle : bus.lost ≤ cursor) : Takes found nothing bus cursor (way bus cursor) := by
  rw [Takes, hway.eq_of_le hle, List.head?_drop, List.tail_drop]
  cases hget : bus.kept[cursor - bus.lost]? with
  | some b =>
      have hnext : cursor + 1 - bus.lost = cursor - bus.lost + 1 := by omega
      exact ⟨rfl, by rw [hnext]⟩
  | none =>
      have hend : bus.kept.length ≤ cursor - bus.lost := List.getElem?_eq_none_iff.1 hget
      refine ⟨rfl, ?_⟩
      rw [List.drop_of_length_le hend, List.drop_of_length_le (by omega)]

/-- Whatever the way, a call takes the first batch that is kept from the cursor on, also if the
cursor is behind the window. -/
theorem Receives.takes (hway : Receives way found nothing) (bus : Bus) (cursor : Nat) :
    Takes found nothing bus cursor (way bus cursor) := by
  rcases Nat.lt_or_ge cursor bus.lost with hlt | hge
  · have hzero : cursor - bus.lost = bus.lost - bus.lost := by omega
    rw [hway.eq_of_lt hlt, Takes, hzero]
    exact hway.takes_of_le (Nat.le_refl bus.lost)
  · exact hway.takes_of_le hge

end

inductive Call where
  | tryReceive
  | receive
  | nextInStream
  deriving DecidableEq, Repr

namespace Session

def Action.call (sub : Nat) : Call → Action
  | .tryReceive => .tryReceive sub
  | .receive => .receive sub
  | .nextInStream => .nextInStream sub

/-- The answer to a call, on a bus that was dropped or not: a batch, or that there is none. -/
def Reply.to (closed : Bool) : Call → Option Batch → Reply
  | .tryReceive, some b => .received (.ok (some b))
  | .tryReceive, none => .received (if closed then .error .closed else .ok none)
  | .receive, some b | .nextInStream, some b => .polled (.ready (some b))
  | .receive, none | .nextInStream, none => .polled (if closed then .ready none else .pending)

def Reply.atEnd : Call → Reply
  | .tryReceive => .received (.error .closed)
  | .receive | .nextInStream => .polled (.ready none)

@[simp] theorem Reply.batch?_to (closed : Bool) (call : Call) (b : Option Batch) :
    (Reply.to closed call b).batch? = b := by
  cases call <;> cases b <;> cases closed <;> rfl

theorem Reply.to_eq_atEnd_iff {closed : Bool} {call : Call} {b : Option Batch} :
    Reply.to closed call b = Reply.atEnd call ↔ closed = true ∧ b = none := by
  cases call <;> cases b <;> cases closed <;> simp [Reply.to, Reply.atEnd]

def HasOpen (s : Session) (sub : Nat) : Prop :=
  ∃ cursor, s.bus.cursors[sub]? = some (some cursor)

/-- A call is answered with the first batch to be read, and the others are then to be read. -/
structure Answers (s : Session) (sub : Nat) (call : Call) (outcome : Reply × Session) :
    Prop where
  reply : outcome.1 = .to s.bus.closed call (s.bus.unread sub).head?
  hasOpen : outcome.2.HasOpen sub
  closed : outcome.2.bus.closed = s.bus.closed
  unread : outcome.2.bus.unread sub = (s.bus.unread sub).tail

theorem answers_receiveAt {s : Session} {sub : Nat} (hopen : s.HasOpen sub) {α : Type}
    {way : Bus → Nat → α × Nat} {found : Batch → α} {nothing : Bool → α}
    (hway : Receives way found nothing) {reply : α → Reply} {call : Call}
    (hfound : ∀ closed b, reply (found b) = .to closed call (some b))
    (hnothing : ∀ closed, reply (nothing closed) = .to closed call none) :
    s.Answers sub call (s.receiveAt way reply sub) := by
  obtain ⟨cursor, hsub⟩ := hopen
  obtain ⟨hanswer, hrest⟩ := hway.takes s.bus cursor
  obtain ⟨hlt, -⟩ := List.getElem?_eq_some_iff.1 hsub
  have hnext : (s.bus.cursors.set sub (some (way s.bus cursor).2))[sub]? =
      some (some (way s.bus cursor).2) := List.getElem?_set_self hlt
  rw [receiveAt_of_cursor way reply hsub]
  refine ⟨?_, ⟨_, hnext⟩, rfl, ?_⟩
  · rw [unread_of_cursor hsub, hanswer]
    cases (s.bus.kept.drop (cursor - s.bus.lost)).head? with
    | some b => exact hfound _ b
    | none => exact hnothing _
  · rw [unread_of_cursor hsub, unread_of_cursor hnext]
    exact hrest

theorem answers {s : Session} {sub : Nat} (hopen : s.HasOpen sub) (call : Call) :
    s.Answers sub call (s.step (.call sub call)) := by
  cases call with
  | tryReceive =>
      refine answers_receiveAt hopen receives_tryReceive ?_ ?_
      · exact fun _ _ => rfl
      · exact fun closed => by cases closed <;> rfl
  | receive =>
      refine answers_receiveAt hopen receives_receive ?_ ?_
      · exact fun _ _ => rfl
      · exact fun closed => by cases closed <;> rfl
  | nextInStream =>
      refine answers_receiveAt hopen receives_nextInStream ?_ ?_
      · exact fun _ _ => rfl
      · exact fun closed => by cases closed <;> rfl

/-! ### Many calls -/

/-- Calls one after another are answered with the batches to be read in their order, and after
these with none. -/
theorem replies_calls {s : Session} {sub : Nat} (hopen : s.HasOpen sub) (calls : List Call) :
    s.replies (calls.map (.call sub)) =
      calls.mapIdx fun i call => .to s.bus.closed call (s.bus.unread sub)[i]? := by
  induction calls generalizing s with
  | nil => rfl
  | cons call calls ih =>
      have h := answers hopen call
      rw [List.map_cons, replies_cons, ih h.hasOpen, List.mapIdx_cons, h.reply, h.closed, h.unread,
        List.head?_eq_getElem?]
      simp only [List.getElem?_tail]

/-- Calls that go on until one is answered without a batch: the batches received before, and
this answer. -/
inductive Drains (sub : Nat) : Session → List Call → List Batch → Reply → Prop
  | last {s : Session} {call : Call} (h : (s.step (.call sub call)).1.batch? = none) :
      Drains sub s [call] [] (s.step (.call sub call)).1
  | more {s : Session} {call : Call} {calls : List Call} {b : Batch} {batches : List Batch}
      {reply : Reply} (h : (s.step (.call sub call)).1.batch? = some b)
      (hrest : Drains sub (s.step (.call sub call)).2 calls batches reply) :
      Drains sub s (call :: calls) (b :: batches) reply

/-- Calls that go on until there is nothing left receive what was to be read, and make one call
more than there are batches. -/
theorem Drains.eq_unread {s : Session} {sub : Nat} {calls : List Call} {batches : List Batch}
    {reply : Reply} (h : Drains sub s calls batches reply) (hopen : s.HasOpen sub) :
    batches = s.bus.unread sub ∧ ∃ before call, calls = before ++ [call] ∧
      before.length = batches.length ∧ reply = .to s.bus.closed call none := by
  induction h with
  | @last s call hnone =>
      have h := answers hopen call
      have hhead : (s.bus.unread sub).head? = none := by
        rw [h.reply, Reply.batch?_to] at hnone
        exact hnone
      refine ⟨(List.head?_eq_none_iff.1 hhead).symm, [], call, rfl, rfl, ?_⟩
      rw [h.reply, hhead]
  | @more s call calls b batches reply hsome _ ih =>
      have h := answers hopen call
      obtain ⟨hbatches, before, final, rfl, hlength, hreply⟩ := ih h.hasOpen
      rw [h.reply, Reply.batch?_to] at hsome
      rw [h.unread] at hbatches
      refine ⟨?_, call :: before, final, rfl, by simp [hlength], by rw [hreply, h.closed]⟩
      obtain ⟨rest, hunread⟩ := List.head?_eq_some_iff.1 hsome
      rw [hbatches, hunread, List.tail_cons]

theorem drains_of_length {s : Session} {sub : Nat} (hopen : s.HasOpen sub) {before : List Call}
    (hlength : before.length = (s.bus.unread sub).length) (call : Call) :
    Drains sub s (before ++ [call]) (s.bus.unread sub) (.to s.bus.closed call none) := by
  induction before generalizing s with
  | nil =>
      have h := answers hopen call
      have hnil : s.bus.unread sub = [] := List.length_eq_zero_iff.1 hlength.symm
      have hreply : (s.step (.call sub call)).1 = .to s.bus.closed call none := by
        rw [h.reply, hnil]
        rfl
      rw [List.nil_append, hnil, ← hreply]
      exact .last (by rw [hreply, Reply.batch?_to])
  | cons first before ih =>
      have h := answers hopen first
      cases hunread : s.bus.unread sub with
      | nil =>
          rw [hunread] at hlength
          cases hlength
      | cons b batches =>
          rw [hunread] at hlength
          have hrest := ih h.hasOpen (by rw [h.unread, hunread]; exact Nat.succ.inj hlength)
          rw [h.unread, hunread, h.closed] at hrest
          exact .more (by rw [h.reply, hunread, Reply.batch?_to]; rfl) hrest

theorem drains_iff {s : Session} {sub : Nat} (hopen : s.HasOpen sub) (calls : List Call)
    (batches : List Batch) (reply : Reply) :
    Drains sub s calls batches reply ↔ batches = s.bus.unread sub ∧ ∃ before call,
      calls = before ++ [call] ∧ before.length = batches.length ∧
        reply = .to s.bus.closed call none := by
  constructor
  · intro h
    exact h.eq_unread hopen
  · rintro ⟨rfl, before, call, rfl, hlength, rfl⟩
    exact drains_of_length hopen hlength call

/-- What is to be read is in the ledger from the number on that is due. -/
theorem Follows.unread {s : Session} {l : Ledger} (h : s.Follows l) {sub cursor : Nat}
    (hsub : s.bus.cursors[sub]? = some (some cursor)) :
    s.bus.unread sub = l.batches.drop (l.due cursor) := by
  have hdue : s.bus.lost + (cursor - s.bus.lost) = l.due cursor := by
    rw [← h.due]
    omega
  rw [unread_of_cursor hsub, h.batches.kept, List.drop_drop, hdue]

end Session

namespace Ledger

open Session (Action)

theorem closed_step (l : Ledger) (action : Action) :
    (l.step action).2.closed = true ↔ action = .close ∨ l.closed = true := by
  have hread : ∀ found nothing sub, (l.read found nothing sub).2.closed = l.closed := by
    intro found nothing sub
    obtain ⟨cursors, h⟩ := l.read_eq found nothing sub
    rw [h]
  cases action with
  | subscribe =>
      simp only [step]
      split <;> simp
  | publish payloads =>
      simp only [step]
      split
      · simp
      · split <;> simp
  | tryReceive sub | receive sub | nextInStream sub => simp [step, hread]
  | _ => simp [step]

theorem closed_run (l : Ledger) (actions : List Action) :
    (l.run actions).closed = true ↔ .close ∈ actions ∨ l.closed = true := by
  induction actions generalizing l with
  | nil => simp [run]
  | cons action actions ih =>
      have hrun : l.run (action :: actions) = (l.step action).2.run actions := rfl
      rw [hrun, ih, closed_step, List.mem_cons]
      tauto

end Ledger

open Session (Action Reply)

/-- Whatever has become of a bus, the ways to receive agree. A subscription has to read the
batches of the ledger from the number on that is due. Any calls for it, in whatever ways, are
answered with these batches in their order and after that with none; so calls that go on
until there is no batch receive all of them and nothing else. A call reports the end exactly
if the bus was dropped and nothing is left to be read, and in no call batches are reported
missed more than once. -/
theorem receives_alike (topic : String) (capacity : Nat) (clock : Clock) {bus : Bus}
    (hbus : ofCapacity? topic capacity = some bus) (actions : List Action) {sub cursor : Nat}
    (hsub : ((⟨clock, bus⟩ : Session).run actions).bus.cursors[sub]? = some (some cursor)) :
    let s := (⟨clock, bus⟩ : Session).run actions
    let l := ({ topic := topic, window := bus.window, clock := clock } : Ledger).run actions
    let unread := l.batches.drop (l.due cursor)
    (∀ calls : List Call, s.replies (calls.map (.call sub)) =
        calls.mapIdx fun i call => .to s.bus.closed call unread[i]?) ∧
      (∀ calls batches reply, Session.Drains sub s calls batches reply ↔
        batches = unread ∧ ∃ before call, calls = before ++ [call] ∧
          before.length = batches.length ∧ reply = .to s.bus.closed call none) ∧
      (∀ call, (s.step (.call sub call)).1 = .atEnd call ↔ .close ∈ actions ∧ unread = []) ∧
      s.bus.LagsOnce cursor := by
  intro s l unread
  obtain rfl : bus = ⟨topic, capacity, 0, 0, [], [], false⟩ := by
    unfold ofCapacity? at hbus
    split at hbus
    · exact (Option.some.inj hbus).symm
    · cases hbus
  have hfollows : s.Follows l := ((Session.follows_new topic capacity clock).run actions).2
  have hopen : s.HasOpen sub := ⟨cursor, hsub⟩
  have hunread : s.bus.unread sub = unread := hfollows.unread hsub
  have hclosed : s.bus.closed = true ↔ .close ∈ actions := by
    rw [hfollows.closed, Ledger.closed_run]
    simp
  -- with the ledger replaced by the state of the bus, what is left is about single calls
  rw [← hunread, ← hclosed]
  refine ⟨Session.replies_calls hopen, Session.drains_iff hopen, fun call => ?_,
    s.bus.lagsOnce cursor⟩
  rw [(Session.answers hopen call).reply, Reply.to_eq_atEnd_iff, List.head?_eq_none_iff]

/-- A bus that keeps one batch and was dropped when its subscription was two batches behind.
One batch is left to be read, and then the end is reported in two ways. -/
theorem receives_alike_closedBehind :
    ∃ bus, ofCapacity? "bulk" 1 = some bus ∧
      let s := (⟨{ time := 0, tick := 1 }, bus⟩ : Session).run
        [.subscribe, .publish ["0"], .publish ["1"], .publish ["2"], .close]
      s.bus.cursors[0]? = some (some 0) ∧
        s.replies ([Call.nextInStream, .tryReceive, .receive].map (.call 0)) =
          [.polled (.ready (some ⟨"bulk", ["2"], 2⟩)), .received (.error .closed),
            .polled (.ready none)] ∧
        Session.Drains 0 s [.nextInStream, .tryReceive] [⟨"bulk", ["2"], 2⟩]
          (.received (.error .closed)) := by
  have hbus : ofCapacity? "bulk" 1 = some ⟨"bulk", 1, 0, 0, [], [], false⟩ := rfl
  obtain ⟨hreplies, hdrains, -⟩ := @receives_alike "bulk" 1 { time := 0, tick := 1 } _ hbus
    [.subscribe, .publish ["0"], .publish ["1"], .publish ["2"], .close] 0 0 rfl
  refine ⟨_, hbus, rfl, hreplies _, ?_⟩
  exact (hdrains _ _ _).2 ⟨rfl, [.nextInStream], .tryReceive, rfl, rfl, rfl⟩

end Bus

end SensorGateway
