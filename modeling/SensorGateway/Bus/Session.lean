import SensorGateway.Bus.Receive
import SensorGateway.Clock

/-!
A bus with the clock by which its batches are stamped, driven one action at a time. After
the bus is dropped nothing can be published or subscribed to, but what was kept is still
received.
-/

namespace SensorGateway

structure Bus.Session where
  clock : Clock
  bus : Bus
  deriving DecidableEq, Repr

namespace Bus.Session

/-- What can be done with a bus and its subscriptions, which are numbered from zero. -/
inductive Action where
  | move (m : Clock.Move)
  | subscribe
  | publish (payloads : List String)
  | tryReceive (sub : Nat)
  | receive (sub : Nat)
  | nextInStream (sub : Nat)
  | unsubscribe (sub : Nat)
  | close
  deriving DecidableEq, Repr

inductive Reply where
  | done
  /-- The bus was dropped before, or there is no such subscription. -/
  | absent
  | subscribed (sub : Nat)
  | published (answer : Except PublishError Nat)
  | received (answer : Except SubscriptionError (Option Batch))
  | polled (answer : Poll (Option Batch))

def receiveAt {α : Type} (s : Session) (way : Bus → Nat → α × Nat) (reply : α → Reply)
    (sub : Nat) : Reply × Session :=
  match Bus.receiveAt way s.bus sub with
  | (none, _) => (.absent, s)
  | (some a, bus) => (reply a, { s with bus := bus })

def step (s : Session) : Action → Reply × Session
  | .move m => (.done, { s with clock := s.clock.move m })
  | .subscribe =>
    if s.bus.closed then (.absent, s)
    else (.subscribed s.bus.cursors.length, { s with bus := s.bus.subscribe })
  | .publish payloads =>
    if s.bus.closed then (.absent, s)
    else
      let (answer, bus) := s.bus.publish s.clock.now payloads
      (.published answer, ⟨s.clock.afterReading, bus⟩)
  | .tryReceive sub => s.receiveAt Bus.tryReceive .received sub
  | .receive sub => s.receiveAt Bus.receive .polled sub
  | .nextInStream sub => s.receiveAt Bus.nextInStream .polled sub
  | .unsubscribe sub => (.done, { s with bus := s.bus.unsubscribe sub })
  | .close => (.done, { s with bus := s.bus.close })

def run (s : Session) (actions : List Action) : Session :=
  actions.foldl (fun s action => (s.step action).2) s

end Bus.Session

end SensorGateway
