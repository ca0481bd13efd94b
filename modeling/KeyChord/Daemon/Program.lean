import KeyChord.CommandLine.EnvFile
import KeyChord.CommandLine.LogFilter
import KeyChord.Daemon.Inspect

/-!
# The program

The program reads its files of variables and its arguments, then runs a session or looks at a
device. What goes wrong is reported as one line, from the outside in.
-/

namespace KeyChord.Daemon

open CommandLine

/-- How a run of the program ended. -/
inductive Conclusion where
  /-- The arguments were not understood, or only asked for a text. -/
  | usage (e : UsageError)
  | ended (exit : Exit) (options : Options)
  /-- A file of variables broke the program before it read its arguments. -/
  | broken (fault : EnvFault)

/-- How the program ends after its arguments made no options. -/
def usageExit : UsageError → Exit
  | .displayHelp => .code 0
  | .displayVersion => .code 0
  | _ => .code 2

/-- The exit code of a program that is broken. -/
def brokenExit : Nat := 101

/-- How the program ends. -/
def Conclusion.exit : Conclusion → Exit
  | usage e => usageExit e
  | ended exit _ => exit
  | broken _ => .code brokenExit

/-- The report of what went wrong. -/
def report (chain : List String) : String :=
  "\nError: " ++ ": ".intercalate chain ++ "\n\n"

/-- Reports what went wrong, if anything did, and answers how the program ends. -/
def concluded {ε : Type} (chain : ε → List String) : Except ε Exit → Act Exit
  | .ok exit => pure exit
  | .error e => do
    Machine.complain (report (chain e))
    pure (.code 1)

/-- What the program does with its options. -/
def perform (o : Options) : Act Exit := do
  let m ← get
  if o.interactive then
    concluded InspectError.chain (← inspect.run)
  else if o.config.isNone && !m.files.exists? o.defaults then
    Machine.complain
      "Nothing to do: pass --config FILE, or --interactive to inspect a device\n"
    pure (.code 2)
  else
    concluded SessionError.chain (← (Session.run o).run)

/-- Prints the text that was asked for, or points to the help. -/
def answerUsage (e : UsageError) : Act Unit := do
  let m ← get
  match e with
  | .displayHelp => Machine.print (helpText m.environment)
  | .displayVersion => Machine.print versionText
  | _ => Machine.complain "For more information, try '--help'.\n"

/-- Reads the arguments and does what they ask for. -/
def obey (args : List String) : Act Conclusion := do
  let m ← get
  match Options.ofArguments m.environment args with
  | .error e =>
    answerUsage e
    pure (.usage e)
  | .ok options =>
    let exit ← perform options
    pure (.ended exit options)

/-- The program from start to end. -/
def run (args : List String) : Act Conclusion := do
  match ← loadEnvFiles.run with
  | .error fault => pure (.broken fault)
  | .ok _ => obey args

/-! ## Standard error -/

/-- A log message with the characters that steer a terminal written out. -/
def tameMessage (message : String) : String :=
  String.join (message.toList.map fun c =>
    let n := c.toNat
    if n = 0x07 || n = 0x08 || n = 0x0c || n = 0x1b || n = 0x7f then
      let digits := Text.hex n
      "\\x" ++ (if digits.length < 2 then "0" ++ digits else digits)
    else if 0x80 ≤ n && n ≤ 0x9f then "\\u\x7b" ++ Text.hex n ++ "\x7d"
    else c.toString)

/-- The name of a level, filled up on the left to the width of the longest. -/
def levelName : Level → String
  | .warn => " WARN"
  | .error => "ERROR"

/-- A log record as a line. The part of the program is shown when debugging. -/
def logLine (debug : Bool) (r : LogRecord) : String :=
  let part := if debug then r.part.name ++ ": " else ""
  levelName r.level ++ " " ++ part ++ tameMessage r.message ++ "\n"

/-- Whether a run was one for debugging. -/
def Conclusion.debug : Conclusion → Bool
  | ended _ options => options.debug
  | _ => false

/-- What stands on standard error after a run. -/
def standardError (debug : Bool) (m : Machine) : String :=
  let limit := logLevel debug m.environment
  String.join (m.notices.map fun notice =>
    match notice with
    | .plain text => text
    | .log r => if limit.passes r.level then logLine debug r else "")

end KeyChord.Daemon
