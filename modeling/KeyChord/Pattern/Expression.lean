import KeyChord.Key.Namespace
import KeyChord.Pattern.Matcher
import KeyChord.Pattern.Node
import KeyChord.Text.Quoted

/-!
# Expressions

An expression is a pattern text together with its matcher: every name is resolved when the
expression is built, so a wrong name is found before any event is seen. Looking at a buffer, an
expression accepts only if the matcher used the whole of it.
-/

namespace KeyChord.Pattern

open Key

/-- Why a text gives no expression. -/
inductive PatternError where
  | notAPattern (text : String)
  | unknownName (name : String)
  deriving DecidableEq, Repr

/-- The message of a pattern error. -/
def PatternError.message : PatternError → String
  | notAPattern text => "Not a valid pattern: " ++ Text.quoted text
  | unknownName name => "Unknown key or button name: " ++ Text.quoted name

/-- Reads a text that is a pattern as a whole. -/
def Node.ofText (text : String) : Except PatternError Node :=
  match read text with
  | ⟨some node, rest⟩ => if rest = "" then .ok node else .error (.notAPattern text)
  | ⟨none, _⟩ => .error (.notAPattern text)

mutual

/-- The matcher of a tree: buttons wait for a press, wildcards for a press of the terminator. The
first unknown name, from the left, is at fault. -/
def Node.compile (terminator : Code) (t : Translator) : Node → Except PatternError Matcher
  | .button name =>
    match t.resolve? name with
    | some code => .ok (.button code .press)
    | none => .error (.unknownName name)
  | .wildcard => .ok (.wildcard terminator)
  | .sequence items => (compileAll terminator t items).map .sequence

/-- The matchers of a row of trees. -/
def Node.compileAll (terminator : Code) (t : Translator) :
    List Node → Except PatternError (List Matcher)
  | [] => .ok []
  | item :: items => do
    let first ← item.compile terminator t
    let others ← compileAll terminator t items
    pure (first :: others)

end

/-- A pattern that is ready to be matched. -/
structure Expression where
  pattern : String
  matcher : Matcher
  terminator : Code
  translator : Translator

/-- What an expression makes of a buffer: its answer and the text of each capture. -/
structure Verdict where
  state : State
  captures : List String
  deriving DecidableEq, Repr

namespace Expression

/-- The expression of a pattern text, whose wildcards end at a press of `terminator`. -/
def ofText (pattern : String) (terminator : Code) (t : Translator) :
    Except PatternError Expression := do
  let node ← Node.ofText pattern
  let matcher ← node.compile terminator t
  pure ⟨pattern, matcher, terminator, t⟩

/-- The lone wildcard that ends at the reset key: it accepts when that key is pressed, whatever
came before. -/
def reset (code : Code) (t : Translator) : Expression :=
  ⟨"*", .wildcard code, code, t⟩

/-- The text of a run of presses. A code that stands for no text adds none. -/
def render (x : Expression) (run : List Event) : String :=
  String.join (run.map fun e => (x.translator.render? e.code).getD "")

/-- Looks at a buffer. Events that the matcher left make it a rejection. -/
def process (x : Expression) (buffer : List Event) : Verdict :=
  let m := x.matcher.evaluate buffer
  ⟨if m.remainder = [] then m.state else .reject, m.captures.map x.render⟩

end Expression

end KeyChord.Pattern
