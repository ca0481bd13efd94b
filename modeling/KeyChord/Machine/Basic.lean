import KeyChord.Machine.Tool
import KeyChord.Members

/-!
# The machine

Everything outside the program that it reads or changes: files and devices, the two programs it
starts, its environment, what is typed to it and what it has printed. The program is a function of
this value, so what it does to the machine can be stated and proved.
-/

namespace KeyChord

/-- How serious a log record is. -/
inductive Level where
  | warn
  | error
  deriving DecidableEq, Repr

/-- The part of the program that writes a log record. -/
inductive Part where
  | dispatcher
  | daemon
  | inspector
  deriving DecidableEq, Repr

/-- The name under which a part logs. -/
def Part.name : Part → String
  | dispatcher => "macro_engine::dispatcher"
  | daemon => "macrod_cli::app"
  | inspector => "macrod_cli::interactive"

/-- A line of the log. -/
structure LogRecord where
  level : Level
  part : Part
  message : String
  deriving DecidableEq, Repr

/-- What was written to standard error: log records, and texts of other origin. -/
inductive Notice where
  | log (record : LogRecord)
  | plain (text : String)
  deriving DecidableEq, Repr

/-- The state of the machine. -/
structure Machine where
  files : FileSystem
  /-- The program that changes settings of the display server's input devices. -/
  xinput : Tool
  /-- The program that runs a command as another user. -/
  runAs : Tool
  environment : Members String
  /-- What is left to read on standard input. -/
  typed : String
  /-- What was printed. -/
  printed : String
  /-- What was written to standard error. -/
  notices : List Notice

/-- Something done on the machine. -/
abbrev Act := StateM Machine

namespace Machine

/-- Uses the display server's program, in the environment of this one. -/
def onXInput {α : Type} (x : StateM Tool α) : Act α := do
  let m ← get
  let (result, tool) := x.run { m.xinput with environment := m.environment }
  set { m with xinput := tool }
  pure result

/-- Starts a command as another user, in the environment of this program. -/
def callAs (args : Arguments) : Act Reply := do
  let m ← get
  let (reply, tool) := (Tool.call args).run { m.runAs with environment := m.environment }
  set { m with runAs := tool }
  pure reply

/-- Writes a log record. -/
def log (level : Level) (part : Part) (message : String) : Act Unit :=
  modify fun m => { m with notices := m.notices ++ [.log ⟨level, part, message⟩] }

/-- Writes a text to standard error. -/
def complain (text : String) : Act Unit :=
  modify fun m => { m with notices := m.notices ++ [.plain text] }

/-- Prints a text. -/
def print (text : String) : Act Unit :=
  modify fun m => { m with printed := m.printed ++ text }

/-- Reads a line of standard input with its newline. At the end of the input it is empty. -/
def readLine : Act String := do
  let m ← get
  let cs := m.typed.toList
  let line := cs.takeWhile (· ≠ '\n')
  let after := cs.dropWhile (· ≠ '\n')
  set { m with typed := String.ofList after.tail }
  pure (String.ofList (line ++ after.take 1))

end Machine

end KeyChord
