import SensorGateway.Settings
import SensorGateway.Text.Ranges
import SensorGateway.Word

/-!
Settings from the variables of the environment. A variable that is not set, or whose text
is no number where one is wanted, leaves its setting at the default.
-/

namespace SensorGateway

/-- The texts of the variables that are set. -/
abbrev Environment := String → Option String

namespace Environment

/-- Reads a whole number of seconds, with blanks around it. -/
def seconds? (env : Environment) (name : String) : Option Span :=
  ((env name).bind fun v => Text.natural? (Text.trim v.toList)).map
    fun n => .ofSeconds (UInt64.ofNat n)

/-- Reads a number, with blanks around it. -/
def number? (env : Environment) (name : String) : Option Nat :=
  (env name).bind fun v => Text.natural? (Text.trim v.toList)

/-- Reads a number that stands by itself. -/
def bareNumber? (env : Environment) (name : String) : Option Nat :=
  (env name).bind fun v => Text.natural? v.toList

def isSet (env : Environment) (name : String) : Bool :=
  (env name).isSome

end Environment

/-- Whether a text is a word, in capital letters or small ones. -/
def saysWord (word text : String) : Bool :=
  text.toList.map Char.toLower = word.toList

def AuthorizationConfig.ofEnvironment (env : Environment) : AuthorizationConfig :=
  let defaults : AuthorizationConfig := {}
  ⟨(env.seconds? "SG_CACHE_TIMEOUT_SECS").getD defaults.timeout⟩

/-- The settings of reloads. The size of a page is read without blanks around it. -/
def ReloadSettings.ofEnvironment (env : Environment) : ReloadSettings :=
  let defaults : ReloadSettings := {}
  { reloadInterval := (env.seconds? "SG_RELOAD_INTERVAL_SECS").getD defaults.reloadInterval
    startDelay := (env.seconds? "SG_RELOAD_START_DELAY_SECS").getD defaults.startDelay
    scanInterval := (env.seconds? "SG_TIMEOUT_SCAN_INTERVAL_SECS").getD defaults.scanInterval
    pageSize := (env.bareNumber? "SG_RELOAD_PAGE_SIZE").getD defaults.pageSize }

def IngestionConfig.ofEnvironment (env : Environment) : IngestionConfig :=
  let defaults : IngestionConfig := {}
  ⟨(env.number? "SG_BUFFER_CAPACITY").getD defaults.capacity⟩

namespace TelemetryConfig

def isContained (env : Environment) : Bool :=
  env.isSet "KUBERNETES_SERVICE_HOST" || env.isSet "DOCKER_CONTAINER"

/-- The settings of reports. Lines are written as documents if that is asked for, or if
nothing is said about it in a container. -/
def ofEnvironment (env : Environment) : TelemetryConfig :=
  let defaults : TelemetryConfig := {}
  { serviceName := (env "SG_SERVICE_NAME").getD defaults.serviceName
    logLevel := (env "SG_LOG_LEVEL" <|> env "RUST_LOG").getD defaults.logLevel
    consoleOutput := match env "SG_CONSOLE_OUTPUT" with
      | some v => !saysWord "false" v && v != "0"
      | none => defaults.consoleOutput
    jsonLogs := match env "SG_JSON_LOGS" with
      | some v => saysWord "true" v || v == "1"
      | none => isContained env }

/-- The settings of one component, whose name follows that of the service. -/
def ofComponent (env : Environment) (component : String) : TelemetryConfig :=
  let config := ofEnvironment env
  { config with serviceName := config.serviceName ++ "-" ++ component }

end TelemetryConfig

end SensorGateway
