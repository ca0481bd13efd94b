import KeyChord.Machine.Files
import KeyChord.Members

/-!
# Options

The command line is read argument by argument. An option that takes a value may wait for it; when
the next argument is another known option, the waiting one is settled first. Afterwards variables
of the environment supply what the command line did not give.
-/

namespace KeyChord.CommandLine

/-- The options of the program. -/
inductive Opt where
  | debug
  | config
  | defaults
  | scheme
  | interactive
  | help
  | version
  deriving DecidableEq, Repr

namespace Opt

/-- The option of a long name. -/
def ofLong? (name : List Char) : Option Opt :=
  if name = "debug".toList then some debug
  else if name = "config".toList then some config
  else if name = "defaults".toList then some defaults
  else if name = "scheme".toList then some scheme
  else if name = "interactive".toList then some interactive
  else if name = "help".toList then some help
  else if name = "version".toList then some version
  else none

/-- The option of a letter. -/
def ofShort? : Char → Option Opt
  | 'd' => some debug
  | 'c' => some config
  | 'i' => some interactive
  | 'h' => some help
  | 'V' => some version
  | _ => none

/-- Whether an option takes a value. -/
def takesValue : Opt → Bool
  | config => true
  | defaults => true
  | scheme => true
  | _ => false

/-- Whether the value of an option may be empty. A path may not. -/
def allowsEmpty : Opt → Bool
  | scheme => true
  | _ => false

end Opt

/-- Why there are no options. Asking for help or for the version is one of the reasons. -/
inductive UsageError where
  | displayHelp
  | displayVersion
  | unknownArgument
  | invalidValue
  | argumentConflict
  | tooManyValues
  deriving DecidableEq, Repr

/-- The reading of a command line under way. -/
structure Progress where
  /-- The options given, each with its value; a flag has none. -/
  given : List (Opt × String) := []
  /-- An option that takes a value and is not settled yet, with the value if it has come. -/
  waiting : Option (Opt × Option String) := none
  deriving DecidableEq, Repr

namespace Progress

/-- Records an option. An option given twice is in conflict with itself, and only then does an
empty value matter. -/
def record (p : Progress) (o : Opt) (value : String) : Except UsageError Progress :=
  if p.given.any fun g => g.1 = o then .error .argumentConflict
  else if o.takesValue && !o.allowsEmpty && value = "" then .error .invalidValue
  else .ok { p with given := p.given ++ [(o, value)] }

/-- Settles the option that waits, if there is one. -/
def settle (p : Progress) : Except UsageError Progress :=
  match p.waiting with
  | none => .ok p
  | some (_, none) => .error .invalidValue
  | some (o, some value) => { p with waiting := none }.record o value

/-- Takes an option that takes no value. -/
def takeFlag (p : Progress) (o : Opt) : Except UsageError Progress := do
  let p ← p.settle
  match o with
  | .help => throw .displayHelp
  | .version => throw .displayVersion
  | o => p.record o ""

/-- Takes an option that takes a value, with the value if it is attached. -/
def takeOption (p : Progress) (o : Opt) (attached : Option String) :
    Except UsageError Progress := do
  let p ← p.settle
  match attached with
  | some value => p.record o value
  | none => pure { p with waiting := some (o, none) }

/-- Takes a long option, without its dashes. -/
def takeLong (p : Progress) (text : List Char) : Except UsageError Progress :=
  let name := text.takeWhile (· ≠ '=')
  let attached := match text.dropWhile (· ≠ '=') with
    | [] => none
    | _ :: value => some (String.ofList value)
  match Opt.ofLong? name with
  | none => .error .unknownArgument
  | some o =>
    if o.takesValue then p.takeOption o attached
    else if attached.isSome then .error .tooManyValues
    else p.takeFlag o

/-- Takes a cluster of letters. What follows the letter of an option with a value is that value,
without an equals sign in front of it. -/
def takeCluster (p : Progress) : List Char → Except UsageError Progress
  | [] => .ok p
  | c :: rest =>
    match Opt.ofShort? c with
    | none => .error .unknownArgument
    | some o =>
      if o.takesValue then
        match rest with
        | [] => p.takeOption o none
        | '=' :: value => p.takeOption o (some (String.ofList value))
        | value => p.takeOption o (some (String.ofList value))
      else
        match p.takeFlag o with
        | .ok p => takeCluster p rest
        | .error e => .error e

/-- Takes an argument that is no option: it is the value that an option waits for, or nothing. -/
def takePlain (p : Progress) (text : String) : Except UsageError Progress :=
  match p.waiting with
  | some (o, none) => .ok { p with waiting := some (o, some text) }
  | _ => .error .unknownArgument

/-- Takes one argument before the double dash. -/
def take (p : Progress) (arg : String) : Except UsageError Progress :=
  match arg.toList with
  | '-' :: '-' :: name => p.takeLong name
  | '-' :: c :: rest => p.takeCluster (c :: rest)
  | _ => p.takePlain arg

/-- Takes all arguments. After a double dash nothing but unknown arguments can come. -/
def takeAll (p : Progress) : List String → Except UsageError Progress
  | [] => p.settle
  | "--" :: rest => if rest = [] then p.settle else .error .unknownArgument
  | arg :: rest =>
    match p.take arg with
    | .ok p => takeAll p rest
    | .error e => .error e

/-- The value of an option on the command line. -/
def value? (p : Progress) (o : Opt) : Option String :=
  p.given.lookup o

end Progress

/-- What the command line and the environment say. -/
structure Options where
  debug : Bool
  config : Option String
  defaults : String
  scheme : String
  interactive : Bool
  deriving DecidableEq, Repr

namespace Options

/-- The file that is loaded first unless another is named. -/
def standardDefaults : String := "/etc/macrod/defaults.conf"

/-- A flag that the environment may set, by one of two words only. -/
def flagOf (given : Bool) (supplied : Option String) : Except UsageError Bool :=
  if given then .ok true
  else
    match supplied with
    | none => .ok false
    | some text =>
      if text = "true" then .ok true
      else if text = "false" then .ok false
      else .error .invalidValue

/-- A path that the environment may supply, but not an empty one. -/
def pathOf (given supplied : Option String) : Except UsageError (Option String) :=
  match given, supplied with
  | some path, _ => .ok (some path)
  | none, some path => if path = "" then .error .invalidValue else .ok (some path)
  | none, none => .ok none

/-- Reads the command line, then the environment. -/
def ofArguments (environment : Members String) (args : List String) :
    Except UsageError Options := do
  let p ← Progress.takeAll {} args
  let debug ← flagOf (p.value? .debug).isSome (environment.get? "MACROD_DEBUG")
  let config ← pathOf (p.value? .config) (environment.get? "MACROD_CONFIG")
  let defaults ← pathOf (p.value? .defaults) (environment.get? "MACROD_DEFAULTS")
  let scheme := (p.value? .scheme) <|> environment.get? "MACROD_SCHEME"
  pure
    { debug, config
      defaults := defaults.getD standardDefaults
      scheme := scheme.getD "default"
      interactive := (p.value? .interactive).isSome }

/-- The configuration files in the order in which they are merged. The defaults are passed over if
they do not exist. -/
def configFiles (o : Options) (fs : FileSystem) : List String :=
  (if fs.exists? o.defaults then [o.defaults] else []) ++ o.config.toList

end Options

/-- What the program prints for a version. -/
def versionText : String := "macrod 1.0.0\n"

/-- A variable as the help shows it, with the value it has. -/
def shownVariable (environment : Members String) (name : String) : String :=
  let value := (environment.get? name).getD ""
  s!"[env: {name}={value}]"

/-- What the program prints for help. -/
def helpText (environment : Members String) : String :=
  let debug := shownVariable environment "MACROD_DEBUG"
  let config := shownVariable environment "MACROD_CONFIG"
  let defaults := shownVariable environment "MACROD_DEFAULTS"
  let scheme := shownVariable environment "MACROD_SCHEME"
  "Runs commands when key or button patterns are typed on an input device\n\n" ++
  "Usage: macrod [OPTIONS]\n\n" ++
  "Options:\n" ++
  s!"  -d, --debug                Enable debug logging {debug}\n" ++
  "  -c, --config <CONFIG>      Path to the JSON config file with device and expressions " ++
  s!"{config}\n" ++
  "      --defaults <DEFAULTS>  Config file loaded before --config; skipped when missing " ++
  s!"{defaults} [default: {Options.standardDefaults}]\n" ++
  s!"      --scheme <SCHEME>      Name of the expression scheme to load {scheme} " ++
  "[default: default]\n" ++
  "  -i, --interactive          Pick a device and print the events it produces\n" ++
  "  -h, --help                 Print help\n" ++
  "  -V, --version              Print version\n"

end KeyChord.CommandLine
