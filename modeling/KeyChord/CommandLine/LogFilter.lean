import KeyChord.Machine.Basic
import KeyChord.Text.Blank

/-!
# How much is logged

The level of the log is set by a variable of the environment: the program's own one counts first,
then the general one; a variable whose text is not understood counts as absent. Without either the
level depends on whether debugging is on.
-/

namespace KeyChord.CommandLine

/-- How much is logged, from nothing to everything. -/
inductive LogLevel where
  | off
  | error
  | warn
  | info
  | debug
  | trace
  deriving DecidableEq, Repr

namespace LogLevel

/-- All levels, in rising order. -/
def all : List LogLevel :=
  [off, error, warn, info, debug, trace]

/-- The name of a level. -/
def name : LogLevel → String
  | off => "off"
  | error => "error"
  | warn => "warn"
  | info => "info"
  | debug => "debug"
  | trace => "trace"

/-- The level of a name in any case, or of its number in rising order. -/
def ofText? (text : List Char) : Option LogLevel :=
  let small := String.ofList (Text.asciiLower text)
  (all.find? fun l => l.name = small) <|> (all.zipIdx.find? fun l => toString l.2 = small).map (·.1)

/-- Whether a log record of a level is written. -/
def passes (limit : LogLevel) : Level → Bool
  | .error => limit ≠ off
  | .warn => limit ≠ off && limit ≠ error

end LogLevel

/-- The level that a comma-separated list sets. Empty items do not count, the last item wins, and a
list of none sets the level for errors. -/
def listedLevel? (text : String) : Option LogLevel :=
  let items := (text.toList.splitOn ',').filter (· ≠ [])
  (items.mapM fun item => LogLevel.ofText? (Text.trim item)).map fun levels =>
    levels.getLastD .error

/-- The variable that is looked at first. -/
def logVariable : String := "MACROD_LOG"

/-- The variable that is looked at second. -/
def generalLogVariable : String := "RUST_LOG"

/-- The level in force. -/
def logLevel (debug : Bool) (environment : Members String) : LogLevel :=
  let level (name : String) := (environment.get? name).bind listedLevel?
  (level logVariable <|> level generalLogVariable).getD (if debug then .debug else .info)

end KeyChord.CommandLine
