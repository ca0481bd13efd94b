import KeyChord.Action.Template
import KeyChord.Machine.Files
import KeyChord.Members

/-!
# Recipes for actions

A header of the configuration names a kind of action and gives it parameters; together they are a
recipe, which makes one action of each command. A recipe is checked when it is read, so that
afterwards only the command can be at fault.
-/

namespace KeyChord.Action

/-- The kinds of actions. -/
inductive Kind where
  | dummy
  | shell
  | pipe
  deriving DecidableEq, Repr

namespace Kind

/-- All kinds. -/
def all : List Kind :=
  [dummy, shell, pipe]

/-- The name of a kind. -/
def name : Kind → String
  | dummy => "dummy"
  | shell => "shell"
  | pipe => "pipe"

/-- The parameters that a kind takes, with the values they have if they are not given. -/
def defaults : Kind → Members String
  | dummy => []
  | shell => [("user", "nobody")]
  | pipe => [("path", "/dev/null"), ("mode", "w")]

/-- The kind of a name, spelt exactly. -/
def ofName (name : String) : Except ActionError Kind :=
  match all.find? fun k => k.name = name with
  | some k => .ok k
  | none => .error (.unknownKind name)

end Kind

/-- The write mode of a letter. -/
def modeOfText (text : String) : Except ActionError FileSystem.WriteMode :=
  if text = "w" then .ok .truncate
  else if text = "a" then .ok .append
  else .error (.badParameter "mode" text)

/-- The letter of a write mode. -/
def modeText : FileSystem.WriteMode → String
  | .truncate => "w"
  | .append => "a"

/-- A kind of action with its parameters. -/
inductive Recipe where
  | dummy
  | shell (user : String)
  | pipe (path : String) (mode : FileSystem.WriteMode)
  deriving DecidableEq, Repr

/-- The member with the least name, by code points. -/
def leastMember? : List (String × String) → Option (String × String)
  | [] => none
  | m :: rest =>
    match leastMember? rest with
    | none => some m
    | some least => if least.1 < m.1 then some least else some m

/-- The value of a parameter, given or else by default, which must not be empty. -/
def required (params defaults : Members String) (name : String) : Except ActionError String :=
  let value := ((params.get? name) <|> (defaults.get? name)).getD ""
  if value = "" then .error (.badParameter name value) else .ok value

namespace Recipe

/-- The kind of a recipe. -/
def kind : Recipe → Kind
  | dummy => .dummy
  | shell _ => .shell
  | pipe _ _ => .pipe

/-- The parameters of a recipe. -/
def parameters : Recipe → Members String
  | dummy => []
  | shell user => [("user", user)]
  | pipe path mode => [("path", path), ("mode", modeText mode)]

/-- Reads a recipe. An unknown kind is reported first, then the least unknown parameter, then the
first parameter with a bad value, in the order of the defaults. -/
def ofParameters (kind : String) (params : Members String) : Except ActionError Recipe := do
  let kind ← Kind.ofName kind
  let unknown := params.filter fun p => (kind.defaults.get? p.1).isNone
  match leastMember? unknown with
  | some (name, value) => throw (.badParameter name value)
  | none =>
    match kind with
    | .dummy => pure dummy
    | .shell => do
      let user ← required params kind.defaults "user"
      pure (shell user)
    | .pipe => do
      let path ← required params kind.defaults "path"
      let mode ← required params kind.defaults "mode"
      let mode ← modeOfText mode
      pure (pipe path mode)

end Recipe

end Action

/-- What a binding does when it fires. -/
inductive Action where
  /-- Nothing, so that a pattern is just swallowed. -/
  | dummy
  /-- Run a command as a user. -/
  | shell (user : String) (command : Action.Template)
  /-- Write a text to a file, which is opened anew each time. -/
  | pipe (path : String) (mode : FileSystem.WriteMode) (text : Action.Template)
  deriving DecidableEq, Repr

/-- The action that a recipe makes of a command. Every kind wants a well-formed command, also the
one that does not use it. -/
def Action.Recipe.action (r : Action.Recipe) (command : String) :
    Except Action.ActionError Action := do
  let template ← (Action.Template.ofText command).mapError .ofTemplate
  match r with
  | dummy => pure .dummy
  | shell user => pure (.shell user template)
  | pipe path mode => pure (.pipe path mode template)

end KeyChord
