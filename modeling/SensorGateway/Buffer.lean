import SensorGateway.Outlet

/-!
Buffers hold admitted payloads until they are drained. A full buffer refuses payloads and
hands them back; a drained batch that cannot be published is handed back too.
-/

namespace SensorGateway

/-- A buffer and the payloads in it, the oldest one first. -/
structure Buffer where
  capacity : Nat
  pending : Array String := #[]
  deriving DecidableEq, Repr

inductive BufferError where
  | full (capacity : Nat) (payload : String)
  | publishFailed (source : PublishError) (batch : List String)
  deriving DecidableEq, Repr

namespace BufferError

def message : BufferError → String
  | .full capacity _ => "Measurement buffer full (capacity " ++ toString capacity ++ ")"
  | .publishFailed source batch =>
    "Failed to publish batch of " ++ toString batch.length ++ " payloads: " ++ source.message

/-- The error of the publisher, if it was the cause. -/
def source? : BufferError → Option PublishError
  | .full .. => none
  | .publishFailed source _ => some source

/-- The payloads that are handed back. -/
def payloads : BufferError → List String
  | .full _ payload => [payload]
  | .publishFailed _ batch => batch

end BufferError

namespace Buffer

def size (b : Buffer) : Nat :=
  b.pending.size

def room (b : Buffer) : Nat :=
  b.capacity - b.size

def push (b : Buffer) (payload : String) (m : Metrics) :
    Except BufferError Unit × Buffer × Metrics :=
  if b.size < b.capacity then
    (.ok (), { b with pending := b.pending.push payload }, { m with pending := m.pending + 1 })
  else (.error (.full b.capacity payload), b, { m with overflows := m.overflows + 1 })

/-- Puts payloads into a buffer one by one and counts those that were taken. -/
def pushAll (b : Buffer) (m : Metrics) : List String → Nat × Buffer × Metrics
  | [] => (0, b, m)
  | payload :: payloads =>
    match b.push payload m with
    | (.ok (), b', m') =>
      let (taken, b'', m'') := b'.pushAll m' payloads
      (taken + 1, b'', m'')
    | (.error _, b', m') => b'.pushAll m' payloads

def drain (b : Buffer) (m : Metrics) : List String × Buffer × Metrics :=
  (b.pending.toList, { b with pending := #[] }, { m with pending := m.pending - b.size })

/-- Publishes everything in a buffer as one batch and tells its length. An empty buffer
publishes nothing. -/
def process (b : Buffer) (o : Outlet) : Except BufferError Nat × Buffer × Outlet :=
  let (batch, b', m) := b.drain o.metrics
  if batch = [] then (.ok 0, b', { o with metrics := m })
  else
    let o' := { o with metrics := { m with publishCalls := m.publishCalls + 1 } }
    match o'.publish batch with
    | (.ok _, o'') =>
      (.ok batch.length, b',
        { o'' with metrics := { o''.metrics with batches := o''.metrics.batches + 1 } })
    | (.error source, o'') =>
      (.error (.publishFailed source batch), b',
        { o'' with metrics := { o''.metrics with failures := o''.metrics.failures + 1 } })

/-- Moves as many of the oldest payloads as fit from one buffer into another, and tells how
many these were. -/
def absorb (into source : Buffer) : Nat × Buffer × Buffer :=
  let moved := min into.room source.size
  (moved, { into with pending := into.pending ++ source.pending.extract 0 moved },
    { source with pending := source.pending.extract moved source.size })

inductive Action where
  | push (payload : String)
  | pushAll (payloads : List String)
  | process
  | drain
  deriving DecidableEq, Repr

inductive Reply where
  | pushed (answer : Except BufferError Unit)
  | taken (n : Nat)
  | processed (answer : Except BufferError Nat)
  | drained (payloads : List String)

def step (b : Buffer) (o : Outlet) : Action → Reply × Buffer × Outlet
  | .push payload =>
    let (answer, b', m) := b.push payload o.metrics
    (.pushed answer, b', { o with metrics := m })
  | .pushAll payloads =>
    let (n, b', m) := b.pushAll o.metrics payloads
    (.taken n, b', { o with metrics := m })
  | .process =>
    let (answer, b', o') := b.process o
    (.processed answer, b', o')
  | .drain =>
    let (payloads, b', m) := b.drain o.metrics
    (.drained payloads, b', { o with metrics := m })

end Buffer

end SensorGateway
