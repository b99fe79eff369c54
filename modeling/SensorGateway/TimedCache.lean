import SensorGateway.TimedMap

/-!
A timed map with a clock and a time limit of its own, driven one action at a time. Writing
reads the clock once, however many values are written; looking up does not read it.
-/

namespace SensorGateway

/-- A timed map that stamps what is written by a clock. -/
structure TimedCache (κ α : Type) where
  clock : Clock
  timeout : Span
  map : TimedMap κ α

namespace TimedCache

variable {κ α : Type}

inductive Action (κ α : Type) where
  | upsert (k : κ) (v : α)
  | upsertMany (pairs : List (κ × α))
  | lookup (k : κ) (tp : Nat)
  | contains (k : κ) (tp : Nat)
  | remove (k : κ)
  | evict (maxAge : Span) (tp : Nat)
  | clear
  | now
  | timeout
  | move (m : Clock.Move)

inductive Reply (α : Type) where
  | done
  | count (n : Nat)
  | found (v : Option α)
  | flag (b : Bool)
  | instant (t : Nat)
  | span (s : Span)

def step [DecidableEq κ] (c : TimedCache κ α) : Action κ α → Reply α × TimedCache κ α
  | .upsert k v =>
    (.done, { c with
      map := c.map.upsert c.clock.now k v
      clock := c.clock.afterReading })
  | .upsertMany pairs =>
    (.count pairs.length, { c with
      map := c.map.upsertMany c.clock.now pairs
      clock := c.clock.afterReading })
  | .lookup k tp => (.found (c.map.lookup c.timeout k tp), c)
  | .contains k tp => (.flag (c.map.contains c.timeout k tp), c)
  | .remove k => (.flag (c.map.get? k).isSome, { c with map := c.map.remove k })
  | .evict maxAge tp =>
    let kept := c.map.evict maxAge tp
    (.count (c.map.size - kept.size), { c with map := kept })
  | .clear => (.done, { c with map := .empty })
  | .now => (.instant c.clock.now, { c with clock := c.clock.afterReading })
  | .timeout => (.span c.timeout, c)
  | .move m => (.done, { c with clock := c.clock.move m })

def run [DecidableEq κ] (c : TimedCache κ α) (actions : List (Action κ α)) :
    TimedCache κ α :=
  actions.foldl (fun c action => (c.step action).2) c

end TimedCache

end SensorGateway
