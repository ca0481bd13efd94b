import KeyChord.Machine.Files
import KeyChord.Members

/-!
# Programs that are started

A tool is a program on the machine, known by what it answers. An answer may depend on all earlier
calls, so a tool that keeps a state of its own, such as the settings of a display server, is a
tool like any other. Every exchange is kept.

A start hands texts to the program: its arguments and the environment. The system bounds each of
them and all of them together, so an environment that has grown too large keeps every program from
starting.
-/

namespace KeyChord

/-- How a program ended. -/
inductive ExitStatus where
  | exited (code : Nat)
  | killed (s : Signal)
  deriving DecidableEq, Repr

/-- The common names of signals, without their first three letters. -/
def Signal.names : List (Nat × String) :=
  [(1, "HUP"), (2, "INT"), (3, "QUIT"), (4, "ILL"), (5, "TRAP"), (6, "ABRT"), (7, "BUS"),
   (8, "FPE"), (9, "KILL"), (10, "USR1"), (11, "SEGV"), (12, "USR2"), (13, "PIPE"), (14, "ALRM"),
   (15, "TERM"), (16, "STKFLT"), (17, "CHLD"), (18, "CONT"), (19, "STOP"), (20, "TSTP"),
   (21, "TTIN"), (22, "TTOU"), (23, "URG"), (24, "XCPU"), (25, "XFSZ"), (26, "VTALRM"),
   (27, "PROF"), (28, "WINCH"), (29, "IO"), (30, "PWR"), (31, "SYS")]

/-- The signal of a name such as `TERM`. -/
def Signal.ofName? (name : String) : Option Signal :=
  (Signal.names.find? fun entry => entry.2 = name).map fun entry => .ofNumber entry.1

/-- The wording of an exit status. -/
def ExitStatus.message : ExitStatus → String
  | exited code => s!"exit status: {code}"
  | killed s =>
    match Signal.names.lookup s.number with
    | some name => s!"signal: {s.number} (SIG{name})"
    | none => s!"signal: {s.number}"

/-- What comes of starting a program. -/
inductive Reply where
  | notStarted (fault : MachineFault)
  | ended (output complaint : String) (status : ExitStatus)
  deriving DecidableEq, Repr

/-- The arguments of a program. -/
abbrev Arguments := List String

/-- A program, the environment that it is started in, and its past: every call with what came of it,
oldest first. -/
structure Tool where
  answer : List (Arguments × Reply) → Arguments → Reply
  environment : Members String := []
  past : List (Arguments × Reply) := []

namespace Tool

/-- The longest text that is handed to a program, in bytes. -/
def maxText : Nat := 131071

/-- The room for all texts that are handed to a program, in bytes. -/
def maxTexts : Nat := 2097152

/-- What a text takes of that room beside its own bytes: its end and its address. -/
def textOverhead : Nat := 9

/-- The lengths of the texts that a start hands to the program: the arguments, and each variable
with its name, an equals sign and its value. -/
def textSizes (environment : Members String) (args : Arguments) : List Nat :=
  args.map String.utf8ByteSize ++
    environment.map fun v => v.1.utf8ByteSize + 1 + v.2.utf8ByteSize

/-- Whether texts of these lengths can be handed to a program. -/
def textsFit (sizes : List Nat) : Bool :=
  sizes.all (· ≤ maxText) && sizes.foldl (fun total n => total + n + textOverhead) 0 ≤ maxTexts

/-- Why a program cannot be started with some arguments, whatever it is: an argument holds the
character of code zero, or else the texts to be handed over are too long. -/
def unfit? (environment : Members String) (args : Arguments) : Option MachineFault :=
  if args.any fun a => a.toList.contains '\x00' then some .zeroInArgument
  else if textsFit (textSizes environment args) then none
  else some .argumentsTooLong

/-- Starts a program, unless its arguments or its environment cannot be handed over. -/
def call (args : Arguments) : StateM Tool Reply := do
  let tool ← get
  let reply :=
    match unfit? tool.environment args with
    | some fault => .notStarted fault
    | none => tool.answer tool.past args
  set { tool with past := tool.past ++ [(args, reply)] }
  pure reply

/-- The calls that did start the program. -/
def calls (t : Tool) : List Arguments :=
  t.past.filterMap fun (args, reply) =>
    match reply with
    | .notStarted _ => none
    | .ended .. => some args

/-- A program that is not installed. -/
def missing : Tool :=
  { answer := fun _ _ => .notStarted .noEntry }

/-- A program that always ends in the same way and prints nothing. -/
def constant (status : ExitStatus) : Tool :=
  { answer := fun _ _ => .ended "" "" status }

/-- The arguments of a call as one line. -/
def line (args : Arguments) : String :=
  " ".intercalate args

/-- A program with a script: the n-th call with the same line gets the n-th reply for that line,
the last reply repeats, and a line without any gets `otherwise`. -/
def scripted (script : List (String × List Reply)) (otherwise : String → Reply) : Tool where
  answer past args :=
    let replies := (script.lookup (line args)).getD []
    let seen := (past.filter fun exchange => line exchange.1 = line args).length
    ((replies[seen]?) <|> replies.getLast?).getD (otherwise (line args))

end Tool

end KeyChord
