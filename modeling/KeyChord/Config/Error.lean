import KeyChord.Config.Mismatch
import KeyChord.Json.Fault
import KeyChord.Machine.Fault

/-!
# What can go wrong with a configuration

Every error has a message, and the errors that repeat a cause name it once more as a link of
their chain.
-/

namespace KeyChord.Config

/-- What is wrong with a text that should be a configuration in JSON. -/
inductive TextFault where
  | syntactic (e : Json.SyntaxError)
  | mismatch (m : Mismatch)

/-- The message of a text fault. -/
def TextFault.message : TextFault → String
  | syntactic e => e.message
  | mismatch m => m.message

/-- Why the entries of a scheme are no bindings. -/
inductive BindingFault where
  | notHeaders
  | blankHeader
  | notPatterns (header : String)
  | notCommand (pattern : String)
  deriving DecidableEq, Repr

/-- The wording of a binding fault. -/
def BindingFault.message : BindingFault → String
  | notHeaders => "scheme must map handler headers to objects"
  | blankHeader => "empty handler header"
  | notPatterns header => "header " ++ Text.quoted header ++ " must map patterns to commands"
  | notCommand pattern => "command for pattern " ++ Text.quoted pattern ++ " must be a string"

/-- Why there is no configuration, or not the scheme that was asked for. -/
inductive ConfigError where
  | unreadable (path : String) (fault : MachineFault)
  | badText (origin : String) (fault : TextFault)
  | notAnObject (origin : String)
  | noFiles
  | missingScheme (scheme : String)
  | badBinding (scheme : String) (fault : BindingFault)
  | unknownNamespace (text : String)
  /-- The key that resets and the key that ends wildcards are the same. -/
  | sameKeys (key : String)
  | noDevice

/-- The message of a text that names no namespace. -/
def unknownNamespaceMessage (text : String) : String :=
  "Unknown key namespace " ++ Text.quoted text ++ ", expected \"key\" or \"button\""

/-- The message of a configuration error. -/
def ConfigError.message : ConfigError → String
  | unreadable path fault => s!"Failed to read config file {path}: {fault.message}"
  | badText origin fault => s!"Invalid JSON in {origin}: {fault.message}"
  | notAnObject origin => s!"Config {origin} must be a JSON object"
  | noFiles => "No config file to load, pass --config or create the defaults file"
  | missingScheme scheme =>
    "Scheme " ++ Text.quoted scheme ++ " not found under \"expressions\""
  | badBinding scheme fault =>
    "Invalid binding in scheme " ++ Text.quoted scheme ++ ": " ++ fault.message
  | unknownNamespace text => unknownNamespaceMessage text
  | sameKeys key => "reset_key and wildcard_key must differ, both are " ++ Text.quoted key
  | noDevice =>
    "No input device configured, set one of device.path, device.name or device.xid"

/-- The message of an error and those of its causes. -/
def ConfigError.chain (e : ConfigError) : List String :=
  e.message ::
    match e with
    | unreadable _ fault => [fault.message]
    | badText _ fault => [fault.message]
    | _ => []

end KeyChord.Config
