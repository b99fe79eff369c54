import SensorGateway.Environment
import SensorGateway.Text.Alphanumeric

/-!
Which log lines are shown. A filter is a list of directives with commas between them, each
of which sets the level of one target or of all others. It is kept with the most specific
directive first.
-/

namespace SensorGateway

inductive LogLevel where
  | off
  | error
  | warn
  | info
  | debug
  | trace
  deriving DecidableEq, Repr

namespace LogLevel

def name : LogLevel → String
  | .off => "off"
  | .error => "error"
  | .warn => "warn"
  | .info => "info"
  | .debug => "debug"
  | .trace => "trace"

/-- All levels; the place of a level in the list is its number. -/
def all : List LogLevel :=
  [.off, .error, .warn, .info, .debug, .trace]

/-- Reads the name of a level, in letters of either case, or its number. -/
def parse? (cs : List Char) : Option LogLevel :=
  match Text.natural? cs with
  | some n => all[n]?
  | none => all.find? fun level => saysWord level.name (String.ofList cs)

end LogLevel

/-- The level of a target, or of all targets without a directive of their own. -/
structure LogDirective where
  target : Option String
  level : LogLevel
  deriving DecidableEq, Repr

namespace LogDirective

def isStart (c : Char) : Bool :=
  c = '-' || c = ':' || c = '_' || Text.isAlphanumeric c

def startsWell (cs : List Char) : Bool :=
  cs.head?.any isStart

/-- A directive without an equals sign: a level, or else a target of which everything is
shown. -/
def ofWord (name : List Char) : LogDirective :=
  match LogLevel.parse? name with
  | some level => ⟨none, level⟩
  | none => ⟨some (String.ofList name), .trace⟩

/-- Reads the level of a target. Everything is shown if there is nothing behind the equals
sign. -/
def ofTarget? (name levelName : List Char) : Option LogDirective :=
  if levelName = [] then some ⟨some (String.ofList name), .trace⟩
  else (LogLevel.parse? levelName).map fun level => ⟨some (String.ofList name), level⟩

/-- Reads a directive. Blanks are not taken off: a word with blanks around it is a target,
and a target with a level has to start at the very front. -/
def parse? (cs : List Char) : Option LogDirective :=
  match cs.span (· != '=') with
  | (name, []) => if startsWell (Text.trim name) then some (ofWord name) else none
  | (name, _ :: levelName) => if startsWell name then ofTarget? name levelName else none

/-- Whether a directive stands in front of another: longer targets come first, those of one
length in falling order, and the directive for all others comes last. -/
def precedes (a b : LogDirective) : Bool :=
  match a.target, b.target with
  | none, _ => false
  | some _, none => true
  | some s, some t =>
    t.utf8ByteSize < s.utf8ByteSize || (s.utf8ByteSize == t.utf8ByteSize && decide (t < s))

def render (d : LogDirective) : String :=
  match d.target with
  | none => d.level.name
  | some target => target ++ "=" ++ d.level.name

end LogDirective

/-- Directives, the most specific one first. -/
abbrev LogFilter := List LogDirective

namespace LogFilter

/-- Puts a directive into its place, where it replaces one of the same target. -/
def insert (d : LogDirective) : LogFilter → LogFilter
  | [] => [d]
  | e :: es =>
    if e.target = d.target then d :: es
    else if d.precedes e then d :: e :: es
    else e :: insert d es

/-- Reads a filter. Empty parts are passed over. -/
def parse? (text : String) : Option LogFilter :=
  let parts := (text.toList.splitOn ',').filter (· ≠ [])
  (parts.mapM LogDirective.parse?).map fun directives =>
    directives.foldl (fun filter d => insert d filter) []

def render (filter : LogFilter) : String :=
  String.intercalate "," (filter.map LogDirective.render)

/-- The filter in force: the one in the environment if there is a valid one, or else the
one that was configured. -/
def choose? (env : Environment) (logLevel : String) : Option LogFilter :=
  (env "RUST_LOG").bind parse? <|> parse? logLevel

end LogFilter

end SensorGateway
