import KeyChord.Action.Run
import KeyChord.Config.Binding

/-!
# Building the dispatcher

The settings and a scheme make a dispatcher, all of it or none: the first name, header, pattern or
command at fault is reported and nothing is run.
-/

namespace KeyChord.Daemon

open KeyChord.Action Config Key Pattern

/-- The two keys that mean something to every pattern. -/
inductive KeyRole where
  | reset
  | wildcard
  deriving DecidableEq, Repr

/-- The name of a role. -/
def KeyRole.name : KeyRole → String
  | reset => "reset"
  | wildcard => "wildcard"

/-- Why a scheme makes no dispatcher. -/
inductive LoadError where
  | unknownKey (role : KeyRole) (name : String)
  | config (e : ConfigError)
  | badHeader (pattern : String) (e : ActionError)
  | badPattern (pattern : String) (e : PatternError)
  | badCommand (pattern : String) (e : ActionError)

/-- What went wrong, from the outside in. -/
def LoadError.chain : LoadError → List String
  | unknownKey role name => [s!"Unknown {role.name} key " ++ Text.quoted name]
  | config e => e.chain
  | badHeader pattern e =>
    ["Invalid handler header for pattern " ++ Text.quoted pattern, e.message]
  | badPattern pattern e => ["Invalid pattern " ++ Text.quoted pattern, e.message]
  | badCommand pattern e => ["Invalid command for pattern " ++ Text.quoted pattern, e.message]

/-- The code of a key with a role. -/
def resolveKey (t : Translator) (role : KeyRole) (name : String) : Except LoadError Code :=
  match t.resolve? name with
  | some code => .ok code
  | none => .error (.unknownKey role name)

/-- The binding that a specification makes: its header is checked first, then its pattern, then its
command. -/
def buildBinding (t : Translator) (terminator : Code) (spec : BindingSpec) :
    Except LoadError (Binding Action) := do
  let recipe ← (Recipe.ofParameters spec.header.kind spec.header.parameters).mapError
    (.badHeader spec.pattern)
  let expression ← (Expression.ofText spec.pattern terminator t).mapError
    (.badPattern spec.pattern)
  let action ← (recipe.action spec.command).mapError (.badCommand spec.pattern)
  pure ⟨expression, action⟩

/-- The dispatcher of a scheme. -/
def buildDispatcher (s : Settings) (scheme : String) : Except LoadError (Dispatcher Action) := do
  let t := s.keyNamespace.translator
  let resetCode ← resolveKey t .reset s.resetKey
  let terminator ← resolveKey t .wildcard s.wildcardKey
  let specs ← (s.bindings scheme).mapError .config
  let bindings ← specs.mapM (buildBinding t terminator)
  pure ⟨.reset resetCode t, bindings, []⟩

end KeyChord.Daemon
