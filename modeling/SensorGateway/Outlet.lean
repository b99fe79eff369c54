import SensorGateway.Bus.Receive
import SensorGateway.Metrics.Exposition
import SensorGateway.Publisher

/-!
What buffers have in common: the publisher they hand their batches to, the clock it may ask
for the time and the metrics.
-/

namespace SensorGateway

structure Outlet where
  clock : Clock
  publisher : Publisher := .fresh
  metrics : Metrics := {}

namespace Outlet

/-- What can be done at an outlet besides filling and draining buffers. -/
inductive Action where
  | move (m : Clock.Move)
  | setFailing (failing : Bool)
  /-- Publishes payloads that come from no buffer. -/
  | publish (payloads : List String)
  | subscribe
  | unsubscribe (sub : Nat)
  | tryReceive (sub : Nat)
  | receive (sub : Nat)
  | nextInStream (sub : Nat)
  deriving DecidableEq, Repr

inductive Reply where
  | done
  | published (answer : Except PublishError Nat)
  /-- What a subscription received, if there is one of this number. -/
  | received (answer : Option (Except SubscriptionError (Option Batch)))
  /-- The same for a subscription that waits. -/
  | polled (answer : Option (Bus.Poll (Option Batch)))

def publish (o : Outlet) (payloads : List String) : Except PublishError Nat × Outlet :=
  let (answer, publisher, clock) := o.publisher.publish o.clock payloads
  (answer, { o with publisher := publisher, clock := clock })

/-- Receives for a subscription in the given way. There is no answer from a publisher that
is no bus. -/
def receiveAt {α : Type} (o : Outlet) (way : Bus → Nat → α × Nat) (sub : Nat) :
    Option α × Outlet :=
  let (answer, publisher) := o.publisher.onBus (Bus.receiveAt way · sub)
  (answer.join, { o with publisher := publisher })

def step (o : Outlet) : Action → Reply × Outlet
  | .move m => (.done, { o with clock := o.clock.move m })
  | .setFailing failing => (.done, { o with publisher := o.publisher.setFailing failing })
  | .publish payloads =>
    let (answer, o') := o.publish payloads
    (.published answer, o')
  | .subscribe =>
    (.done, { o with publisher := (o.publisher.onBus fun b => ((), b.subscribe)).2 })
  | .unsubscribe sub =>
    (.done, { o with publisher := (o.publisher.onBus fun b => ((), b.unsubscribe sub)).2 })
  | .tryReceive sub => (o.receiveAt Bus.tryReceive sub).map .received id
  | .receive sub => (o.receiveAt Bus.receive sub).map .polled id
  | .nextInStream sub => (o.receiveAt Bus.nextInStream sub).map .polled id

end Outlet

end SensorGateway
