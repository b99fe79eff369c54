import SensorGateway.Bus.Basic

/-!
Receiving from a bus. A look at the batch under a cursor may show that the batch is no
longer kept; then the cursor moves on to the oldest one that is, and the three ways to
receive look again.
-/

namespace SensorGateway

/-- The bus was dropped and all that was kept has been read. -/
inductive SubscriptionError where
  | closed
  deriving DecidableEq, Repr

def SubscriptionError.message : SubscriptionError → String
  | .closed => "Measurement bus closed"

namespace Bus

/-- What a look at the batch under a cursor shows. -/
inductive Look where
  | batch (b : Batch)
  /-- So many batches were missed. -/
  | lagged (missed : Nat)
  | empty
  | closed
  deriving DecidableEq, Repr

def look (bus : Bus) (cursor : Nat) : Look × Nat :=
  if cursor < bus.lost then (.lagged (bus.lost - cursor), bus.lost)
  else
    match bus.kept[cursor - bus.lost]? with
    | some b => (.batch b, cursor + 1)
    | none => (if bus.closed then .closed else .empty, cursor)

theorem lt_lost_of_look {bus : Bus} {cursor missed next : Nat}
    (h : bus.look cursor = (.lagged missed, next)) : cursor < bus.lost ∧ next = bus.lost := by
  unfold look at h
  split at h
  · rename_i hlt
    exact ⟨hlt, (Prod.mk.inj h).2.symm⟩
  · split at h
    · cases h
    · split at h <;> cases h

def tryReceive (bus : Bus) (cursor : Nat) : Except SubscriptionError (Option Batch) × Nat :=
  match _h : bus.look cursor with
  | (.batch b, next) => (.ok (some b), next)
  | (.empty, next) => (.ok none, next)
  | (.closed, next) => (.error .closed, next)
  | (.lagged _, next) => bus.tryReceive next
termination_by bus.lost - cursor
decreasing_by
  have := lt_lost_of_look _h
  omega

inductive Poll (α : Type) where
  | ready (a : α)
  | pending
  deriving DecidableEq, Repr

/-- Receives a batch, or none at the end; without either the receiver has to wait. -/
def receive (bus : Bus) (cursor : Nat) : Poll (Option Batch) × Nat :=
  match _h : bus.look cursor with
  | (.batch b, next) => (.ready (some b), next)
  | (.closed, next) => (.ready none, next)
  | (.empty, next) => (.pending, next)
  | (.lagged _, next) => bus.receive next
termination_by bus.lost - cursor
decreasing_by
  have := lt_lost_of_look _h
  omega

/-- The next item of the stream of a subscription: a batch, or how many were missed. -/
def item (bus : Bus) (cursor : Nat) : Poll (Option (Except Nat Batch)) × Nat :=
  match bus.look cursor with
  | (.batch b, next) => (.ready (some (.ok b)), next)
  | (.lagged missed, next) => (.ready (some (.error missed)), next)
  | (.closed, next) => (.ready none, next)
  | (.empty, next) => (.pending, next)

theorem lt_lost_of_item {bus : Bus} {cursor missed next : Nat}
    (h : bus.item cursor = (.ready (some (.error missed)), next)) :
    cursor < bus.lost ∧ next = bus.lost := by
  unfold item at h
  split at h
  · cases h
  · rename_i hl
    cases h
    exact lt_lost_of_look hl
  · cases h
  · cases h

/-- The next batch of the stream of a subscription, past all that was missed. -/
def nextInStream (bus : Bus) (cursor : Nat) : Poll (Option Batch) × Nat :=
  match _h : bus.item cursor with
  | (.ready (some (.ok b)), next) => (.ready (some b), next)
  | (.ready (some (.error _)), next) => bus.nextInStream next
  | (.ready none, next) => (.ready none, next)
  | (.pending, next) => (.pending, next)
termination_by bus.lost - cursor
decreasing_by
  have := lt_lost_of_item _h
  omega

/-- Receives for a subscription in the given way and moves its cursor. There is no answer
from a subscription that was dropped. -/
def receiveAt {α : Type} (way : Bus → Nat → α × Nat) (bus : Bus) (sub : Nat) :
    Option α × Bus :=
  match bus.cursors[sub]? with
  | some (some cursor) =>
    let (answer, next) := way bus cursor
    (some answer, { bus with cursors := bus.cursors.set sub (some next) })
  | _ => (none, bus)

end Bus

end SensorGateway
