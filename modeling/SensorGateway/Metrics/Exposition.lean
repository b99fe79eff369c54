/-!
What the gateway counts about itself, where a gauge holds the value it was last given, and the
metrics as lines of text: families in the order of their names, each with a line that
explains it, a line with its kind and the lines of its values. How long the publishing took
is not kept, so that stars stand for durations.
-/

namespace SensorGateway

structure Metrics where
  admitted : Nat := 0
  rejected : Nat := 0
  deferred : Nat := 0
  /-- Payloads that a full buffer refused. -/
  overflows : Nat := 0
  /-- A gauge of the payloads in buffers. -/
  pending : Nat := 0
  /-- Batches that the publisher accepted. -/
  batches : Nat := 0
  /-- Batches that the publisher did not accept. -/
  failures : Nat := 0
  /-- Batches whose publishing was timed. -/
  publishCalls : Nat := 0
  /-- Records that were dropped for their age. -/
  evicted : Nat := 0
  /-- Reloads of everything. -/
  reloads : Nat := 0
  /-- A gauge of the sensors held. -/
  cachedSensors : Nat := 0
  deriving DecidableEq, Repr

inductive Sample where
  | counter (n : Nat)
  | gauge (n : Nat)
  /-- A distribution over ranges with the given upper bounds. -/
  | histogram (bounds : List String)
  deriving DecidableEq, Repr

namespace Sample

def kind : Sample → String
  | .counter _ => "counter"
  | .gauge _ => "gauge"
  | .histogram _ => "histogram"

def lines (name : String) : Sample → List String
  | .counter n | .gauge n => [name ++ " " ++ toString n]
  | .histogram bounds =>
    bounds.map (fun bound => name ++ "_bucket\x7ble=\"" ++ bound ++ "\"\x7d *") ++
      [name ++ "_sum *", name ++ "_count *"]

end Sample

structure Family where
  name : String
  help : String
  sample : Sample
  deriving DecidableEq, Repr

def Family.lines (f : Family) : List String :=
  ("# HELP " ++ f.name ++ " " ++ f.help) :: ("# TYPE " ++ f.name ++ " " ++ f.sample.kind) ::
    f.sample.lines f.name

/-- A number of ten-thousandths, less than one in all, as a decimal fraction. -/
def fraction (n : Nat) : String :=
  let digits := Nat.toDigits 10 n
  "0." ++ String.ofList (List.replicate (4 - digits.length) '0' ++ digits)

/-- The bounds of durations in seconds: a ten-thousandth doubled again and again, and at
last no bound. -/
def durationBounds : List String :=
  (List.range 14).map (fun k => fraction (Nat.pow 2 k)) ++ ["+Inf"]

namespace Metrics

def families (m : Metrics) : List Family :=
  [⟨"sg_admission_measurements_admitted_total",
      "Total measurements admitted into the buffer", .counter m.admitted⟩,
    ⟨"sg_admission_measurements_deferred_total",
      "Total measurements deferred for an unknown sensor", .counter m.deferred⟩,
    ⟨"sg_admission_measurements_rejected_total",
      "Total measurements rejected", .counter m.rejected⟩,
    ⟨"sg_buffer_batches_published_total",
      "Total batches published", .counter m.batches⟩,
    ⟨"sg_buffer_overflow_total",
      "Total payloads refused by a full measurement buffer", .counter m.overflows⟩,
    ⟨"sg_buffer_pending",
      "Payloads currently held by the measurement buffer", .gauge m.pending⟩,
    ⟨"sg_buffer_publish_duration_seconds",
      "Time spent handing a batch to the publisher", .histogram durationBounds⟩,
    ⟨"sg_buffer_publish_failures_total",
      "Total batches the publisher failed to accept", .counter m.failures⟩,
    ⟨"sg_cache_entries_evicted_total",
      "Total stale cache entries removed by cleanup sweeps", .counter m.evicted⟩,
    ⟨"sg_cache_reloads_total",
      "Total completed bulk cache reloads", .counter m.reloads⟩,
    ⟨"sg_cache_sensors",
      "Sensors held by the authorization cache", .gauge m.cachedSensors⟩]

def lines (m : Metrics) : List String :=
  m.families.flatMap Family.lines

end Metrics

end SensorGateway
