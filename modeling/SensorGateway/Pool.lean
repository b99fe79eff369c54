import SensorGateway.Buffer

/-!
Several buffers that share one outlet.
-/

namespace SensorGateway

structure Pool extends Outlet where
  buffers : List Buffer

namespace Pool

/-- What can be done with the buffers of a pool, which are numbered from zero. -/
inductive Action where
  | buffer (index : Nat) (action : Buffer.Action)
  /-- Moves payloads from one buffer into another. -/
  | absorb (into source : Nat)
  | outlet (action : Outlet.Action)
  deriving DecidableEq, Repr

inductive Reply where
  /-- There is no such buffer. -/
  | absent
  | buffer (reply : Buffer.Reply)
  | moved (n : Nat)
  | outlet (reply : Outlet.Reply)

/-- The state after an action. A buffer takes nothing from itself. -/
def step (p : Pool) : Action → Reply × Pool
  | .buffer index action =>
    match p.buffers[index]? with
    | none => (.absent, p)
    | some b =>
      let (reply, b', o) := b.step p.toOutlet action
      (.buffer reply, { p with toOutlet := o, buffers := p.buffers.set index b' })
  | .absorb into source =>
    if into = source then (.moved 0, p)
    else
      match p.buffers[into]?, p.buffers[source]? with
      | some a, some b =>
        let (n, a', b') := a.absorb b
        (.moved n, { p with buffers := (p.buffers.set into a').set source b' })
      | _, _ => (.absent, p)
  | .outlet action =>
    let (reply, o) := p.toOutlet.step action
    (.outlet reply, { p with toOutlet := o })

def run (p : Pool) (actions : List Action) : Pool :=
  actions.foldl (fun p action => (p.step action).2) p

end Pool

end SensorGateway
