import SensorGateway.Bus.Basic
import SensorGateway.Clock

/-!
Publishers: what takes the batches of a buffer.
-/

namespace SensorGateway

inductive Publisher where
  /-- Keeps the batches it accepts, unless it is set to fail. -/
  | recording (failing : Bool) (batches : List (List String))
  /-- Accepts everything and keeps nothing. -/
  | silent
  | bus (b : Bus)
  /-- Answers in turn as told, and at last always accepts; keeps all that it was offered. -/
  | scripted (answers : List (Except PublishError Nat)) (offered : List (List String))

namespace Publisher

/-- A publisher that keeps batches and has none yet. -/
def fresh : Publisher :=
  .recording false []

/-- Publishes payloads. The answer is the number of receivers. Only a bus asks for the
time. -/
def publish (p : Publisher) (clock : Clock) (payloads : List String) :
    Except PublishError Nat × Publisher × Clock :=
  match p with
  | .recording true batches => (.error .notConnected, .recording true batches, clock)
  | .recording false batches => (.ok 1, .recording false (batches ++ [payloads]), clock)
  | .silent => (.ok 0, .silent, clock)
  | .bus b =>
    let (answer, b') := b.publish clock.now payloads
    (answer, .bus b', clock.afterReading)
  | .scripted [] offered => (.ok 1, .scripted [] (offered ++ [payloads]), clock)
  | .scripted (answer :: answers) offered =>
    (answer, .scripted answers (offered ++ [payloads]), clock)

def setFailing (failing : Bool) : Publisher → Publisher
  | .recording _ batches => .recording failing batches
  | p => p

def onBus {α : Type} (f : Bus → α × Bus) : Publisher → Option α × Publisher
  | .bus b =>
    let (a, b') := f b
    (some a, .bus b')
  | p => (none, p)

end Publisher

end SensorGateway
