import KeyChord.Config.Header
import KeyChord.Config.Settings

/-!
# The bindings of a scheme

A scheme maps headers to objects, and each of these maps patterns to commands. The bindings come in
the order in which headers and patterns are written.
-/

namespace KeyChord.Config

/-- One binding as the configuration writes it. -/
structure BindingSpec where
  header : Header
  pattern : String
  command : String
  deriving DecidableEq, Repr

/-- One pattern under a header. -/
def readCommand (header : Header) (member : String × Json) : Except BindingFault BindingSpec :=
  match member.2 with
  | .text command => .ok ⟨header, member.1, command⟩
  | _ => .error (.notCommand member.1)

/-- The patterns under one header. A blank header is reported before what it maps to. -/
def readHeader (member : String × Json) : Except BindingFault (List BindingSpec) :=
  let header := Header.ofText member.1
  if header.kind = "" then .error .blankHeader
  else
    match member.2 with
    | .object patterns => (Members.ofList patterns).mapM (readCommand header)
    | _ => .error (.notPatterns member.1)

/-- The bindings under all headers of a scheme. -/
def readScheme (scheme : Json) : Except BindingFault (List BindingSpec) :=
  match scheme with
  | .object headers => ((Members.ofList headers).mapM readHeader).map List.flatten
  | _ => .error .notHeaders

/-- The bindings of a scheme. -/
def Settings.bindings (s : Settings) (scheme : String) : Except ConfigError (List BindingSpec) :=
  match s.schemes.get? scheme with
  | none => .error (.missingScheme scheme)
  | some headers => (readScheme headers).mapError (.badBinding scheme)

end KeyChord.Config
