import KeyChord.Members
import KeyChord.Text.Blank

/-!
# Headers

A header such as `shell user=bob` is a row of words between blanks: the kind of action first, then
parameters. The first equals sign of a parameter divides its name from its value; a parameter
without one has the empty value.
-/

namespace KeyChord.Config

/-- A header taken apart. -/
structure Header where
  kind : String
  parameters : Members String
  deriving DecidableEq, Repr

/-- The name and the value of a parameter. -/
def parameter (word : List Char) : String × String :=
  match Text.cutAt? '=' word with
  | some (name, value) => (String.ofList name, String.ofList value)
  | none => (String.ofList word, "")

/-- Takes a header apart. A blank header has the empty kind. -/
def Header.ofText (text : String) : Header :=
  match Text.words text.toList with
  | [] => ⟨"", []⟩
  | kind :: parameters => ⟨String.ofList kind, .ofList (parameters.map parameter)⟩

end KeyChord.Config
