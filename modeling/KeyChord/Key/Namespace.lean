import KeyChord.Key.Names
import KeyChord.Text.Blank

/-!
# Namespaces of keys

A pattern names keys or it names buttons, never both: its namespace supplies the kernel prefix.
A namespace turns a name into a code (`resolve?`), a code into its short name (`shortName?`) and a
captured code into text (`render?`). Text is what the key types on a US layout; a button types
nothing and is rendered as its bracketed short name.
-/

namespace KeyChord.Key

/-- Whether names mean keys or buttons. -/
inductive Namespace where
  | keyboard
  | pointer
  deriving DecidableEq, Repr

/-- What turns names into codes and captured codes into text. -/
structure Translator where
  resolve? : String → Option Code
  render? : Code → Option String

namespace Namespace

/-- What the kernel's names of a namespace start with. -/
def kernelStem : Namespace → List Char
  | keyboard => ['K', 'E', 'Y', '_']
  | pointer => ['B', 'T', 'N', '_']

/-- Reads the name of a namespace. Blanks around it and its case do not matter. -/
def ofText? (text : String) : Option Namespace :=
  let name := String.ofList (Text.asciiLower (Text.trim text.toList))
  if name = "key" || name = "keyboard" then some keyboard
  else if name = "button" || name = "pointer" || name = "mouse" then some pointer
  else none

/-- A key name without the opening brackets before it and the closing brackets after it. -/
def bareName (name : List Char) : List Char :=
  Text.dropEndWhile (· = '>') (name.dropWhile (· = '<'))

/-- The kernel's name for a name of either case, bracketed or not. -/
def kernelName (n : Namespace) (name : String) : String :=
  String.ofList (n.kernelStem ++ Text.asciiUpper (bareName name.toList))

/-- The code of a key or button name. -/
def resolve? (n : Namespace) (name : String) : Option Code :=
  codeOf? (n.kernelName name)

/-- The kernel's name of a code in small letters and without its prefix. A code whose name
belongs to the other namespace has none. -/
def shortName? (n : Namespace) (code : Code) : Option String := do
  let name ← nameOf? code
  let short ← List.isPrefixOf? n.kernelStem name.toList
  pure (String.ofList (Text.asciiLower short))

/-- What a key types on a US layout without modifiers. -/
def usLayout : List (Code × String) :=
  [(2, "1"), (3, "2"), (4, "3"), (5, "4"), (6, "5"), (7, "6"), (8, "7"), (9, "8"), (10, "9"),
   (11, "0"), (12, "-"), (13, "="), (15, "\t"), (16, "q"), (17, "w"), (18, "e"), (19, "r"),
   (20, "t"), (21, "y"), (22, "u"), (23, "i"), (24, "o"), (25, "p"), (26, "["), (27, "]"),
   (30, "a"), (31, "s"), (32, "d"), (33, "f"), (34, "g"), (35, "h"), (36, "j"), (37, "k"),
   (38, "l"), (39, ";"), (40, "'"), (41, "`"), (43, "\\"), (44, "z"), (45, "x"), (46, "c"),
   (47, "v"), (48, "b"), (49, "n"), (50, "m"), (51, ","), (52, "."), (53, "/"), (55, "*"),
   (57, " "), (71, "7"), (72, "8"), (73, "9"), (74, "-"), (75, "4"), (76, "5"), (77, "6"),
   (78, "+"), (79, "1"), (80, "2"), (81, "3"), (82, "0"), (83, "."), (98, "/")]

/-- The text that a captured code stands for. -/
def render? (n : Namespace) (code : Code) : Option String :=
  match n with
  | keyboard => usLayout.lookup code
  | pointer => (n.shortName? code).map fun name => "<" ++ name ++ ">"

/-- The translator of a namespace. -/
def translator (n : Namespace) : Translator :=
  ⟨n.resolve?, n.render?⟩

end Namespace

end KeyChord.Key
