import SensorGateway.LogFilter

/-!
Setting up the reports of a program. Metrics can be registered once and a log filter can be
installed once; a second attempt fails.
-/

namespace SensorGateway

inductive TelemetryError where
  | loggingInit (reason : String)
  | metricsInit (reason : String)
  | config (reason : String)
  deriving DecidableEq, Repr

def TelemetryError.message : TelemetryError → String
  | .loggingInit reason => "Failed to initialize logging: " ++ reason
  | .metricsInit reason => "Failed to initialize Prometheus metrics: " ++ reason
  | .config reason => "Invalid configuration: " ++ reason

/-- What was set up so far. -/
structure Telemetry where
  registered : Bool := false
  filter : Option LogFilter := none
  deriving DecidableEq, Repr

namespace Telemetry

def register (t : Telemetry) : Except TelemetryError Unit × Telemetry :=
  if t.registered then
    (.error (.metricsInit "Duplicate metrics collector registration attempted"), t)
  else (.ok (), { t with registered := true })

/-- Installs the filter in force. It is chosen before anything else is looked at. -/
def initLogging (t : Telemetry) (env : Environment) (config : TelemetryConfig) :
    Except TelemetryError Unit × Telemetry :=
  match LogFilter.choose? env config.logLevel with
  | none => (.error (.config "invalid filter directive"), t)
  | some filter =>
    match t.filter with
    | some _ =>
      (.error (.loggingInit "a global default trace dispatcher has already been set"), t)
    | none => (.ok (), { t with filter := some filter })

def init (t : Telemetry) (env : Environment) (config : TelemetryConfig) :
    Except TelemetryError Unit × Telemetry :=
  match t.register with
  | (.error e, t') => (.error e, t')
  | (.ok (), t') => t'.initLogging env config

end Telemetry

end SensorGateway
