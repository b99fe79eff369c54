import SensorGateway.Span

/-!
The settings of the gateway and their defaults.
-/

namespace SensorGateway

/-- How long a record is served. -/
structure AuthorizationConfig where
  timeout : Span := .ofSeconds 360
  deriving DecidableEq, Repr

/-- When records are reloaded and old ones dropped, and how many sensors make a page. -/
structure ReloadSettings where
  reloadInterval : Span := .ofSeconds 300
  startDelay : Span := .ofSeconds 1
  scanInterval : Span := .ofSeconds 60
  pageSize : Nat := 10000
  deriving DecidableEq, Repr

/-- The size of the pages that are asked for: never zero. -/
def ReloadSettings.effectivePageSize (s : ReloadSettings) : Nat :=
  max s.pageSize 1

theorem ReloadSettings.effectivePageSize_pos (s : ReloadSettings) : 0 < s.effectivePageSize := by
  unfold effectivePageSize
  omega

structure IngestionConfig where
  capacity : Nat := 10000
  deriving DecidableEq, Repr

structure TelemetryConfig where
  serviceName : String := "sensate-gateway"
  logLevel : String := "info"
  consoleOutput : Bool := true
  jsonLogs : Bool := false
  deriving DecidableEq, Repr

end SensorGateway
