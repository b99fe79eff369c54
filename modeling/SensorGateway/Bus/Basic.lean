import SensorGateway.Uuid
import SensorGateway.Word

/-!
Batches, which are what a publisher hands on at once, and a bus for them in memory. The batches
sent are numbered from zero, and a window of the last ones is kept. A subscription is a cursor:
the number of the batch to be read next. The window holds as many batches as the least power
of two that is not below the capacity.
-/

namespace SensorGateway

/-- Payloads that were published together, in the order in which they were admitted. -/
structure Batch where
  topic : String
  payloads : List String
  /-- The instant at which the batch was accepted. -/
  publishedAt : Nat
  deriving DecidableEq, Repr

/-- A batch under an identifier of its own, as it is passed to other programs. -/
structure TaggedBatch extends Batch where
  id : Uuid
  deriving DecidableEq, Repr

inductive PublishError where
  | noSubscribers (topic : String)
  | notConnected
  | internal (reason : String)
  deriving DecidableEq, Repr

def PublishError.message : PublishError → String
  | .noSubscribers topic => "No subscribers on topic " ++ topic
  | .notConnected => "Publisher not connected"
  | .internal reason => "Publish failed: " ++ reason

/-- A bus and its subscriptions in the order in which they were made; a dropped one leaves
its place empty. -/
structure Bus where
  topic : String
  capacity : Nat
  /-- How often publishing was attempted. -/
  attempts : Nat := 0
  /-- The number of batches sent that are no longer kept. -/
  lost : Nat := 0
  /-- The batches kept, the oldest one first. -/
  kept : List Batch := []
  cursors : List (Option Nat) := []
  closed : Bool := false
  deriving DecidableEq, Repr

namespace Bus

def defaultTopic : String := "sensateiot/internal/measurements/bulk"

def defaultCapacity : Nat := 64

/-- A new bus, if its capacity is neither zero nor too large. -/
def ofCapacity? (topic : String) (capacity : Nat) : Option Bus :=
  if 0 < capacity ∧ capacity ≤ maxSignedWord then
    some ⟨topic, capacity, 0, 0, [], [], false⟩
  else none

/-- The number of batches that are kept: the least power of two that is not below the
capacity. -/
def window (bus : Bus) : Nat :=
  if bus.capacity ≤ 1 then 1 else 1 <<< ((bus.capacity - 1).log2 + 1)

/-- The number of batches sent, which is the number of the next one. -/
def sent (bus : Bus) : Nat :=
  bus.lost + bus.kept.length

/-- The number of subscriptions that were not dropped. -/
def subscribers (bus : Bus) : Nat :=
  bus.cursors.countP Option.isSome

def subscribe (bus : Bus) : Bus :=
  { bus with cursors := bus.cursors ++ [some bus.sent] }

def unsubscribe (bus : Bus) (sub : Nat) : Bus :=
  { bus with cursors := bus.cursors.set sub none }

/-- Drops the bus. What is kept can still be read. -/
def close (bus : Bus) : Bus :=
  { bus with closed := true }

/-- Sends a batch, for which the oldest one makes room if need be. -/
def send (bus : Bus) (batch : Batch) : Bus :=
  if bus.kept.length < bus.window then { bus with kept := bus.kept ++ [batch] }
  else { bus with kept := bus.kept.drop 1 ++ [batch], lost := bus.lost + 1 }

/-- Publishes payloads at an instant and tells how many subscriptions there are. Without
any, nothing is sent. -/
def publish (bus : Bus) (now : Nat) (payloads : List String) :
    Except PublishError Nat × Bus :=
  let bus := { bus with attempts := bus.attempts + 1 }
  if bus.subscribers = 0 then (.error (.noSubscribers bus.topic), bus)
  else (.ok bus.subscribers, bus.send ⟨bus.topic, payloads, now⟩)

end Bus

end SensorGateway
