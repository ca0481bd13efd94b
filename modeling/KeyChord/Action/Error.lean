import KeyChord.Machine.Fault
import KeyChord.Text.Quoted

/-!
# What can go wrong with an action

Most errors are found when the action is built from its header and its command; the others only
when it runs.
-/

namespace KeyChord.Action

/-- Why a command is no template, or cannot be filled. -/
inductive TemplateFault where
  /-- A closing brace that closes nothing. -/
  | strayClose
  /-- An opening brace that is not closed. -/
  | unclosed
  /-- Empty and numbered fields in one command. -/
  | mixedNumbering
  | badField (field : String)
  /-- A field asks for a capture that there is not. -/
  | missingCapture (index captures : Nat)
  deriving DecidableEq, Repr

/-- The wording of a template fault. -/
def TemplateFault.message : TemplateFault → String
  | strayClose => "single '\x7d' encountered"
  | unclosed => "unclosed '\x7b'"
  | mixedNumbering => "cannot mix automatic and manual field numbering"
  | badField field => "invalid field \x7b" ++ field ++ "\x7d"
  | missingCapture index captures => s!"placeholder {index} but only {captures} captures"

/-- A template fault and the command it was found in. -/
structure TemplateError where
  fault : TemplateFault
  source : String
  deriving DecidableEq, Repr

/-- The message of a template error. -/
def TemplateError.message (e : TemplateError) : String :=
  e.fault.message ++ " in " ++ Text.quoted e.source

/-- Why an action cannot be built or did not run to its end. -/
inductive ActionError where
  | unknownKind (kind : String)
  | badParameter (name value : String)
  | template (reason : String)
  /-- The program that the action started did not end well, or the action says so itself. -/
  | failed (reason : String)
  | machine (fault : MachineFault)
  deriving DecidableEq, Repr

/-- A template error as an error of the action. -/
def ActionError.ofTemplate (e : TemplateError) : ActionError :=
  .template e.message

/-- The message of an action error. -/
def ActionError.message : ActionError → String
  | unknownKind kind => "Unknown handler kind: " ++ kind
  | badParameter name value =>
    "Invalid value " ++ Text.quoted value ++ s!" for handler parameter '{name}'"
  | template reason => "Command template error: " ++ reason
  | failed reason => "Handler failed: " ++ reason
  | machine fault => "I/O error: " ++ fault.message

end KeyChord.Action
