import KeyChord.Machine.Basic
import KeyChord.Text.Alphanumeric
import KeyChord.Text.Blank

/-!
# Files of variables

A file of variables sets one variable per line, as `NAME=value`, with `export` in front if it
likes. A value may be quoted: double quotes keep blanks, single quotes keep everything. A dollar
sign takes in another variable, from the environment or else from an earlier line. A line at fault
ends the reading, with the lines before it in force; no line replaces a variable that is set. A
value that no variable can hold breaks the program.
-/

namespace KeyChord.CommandLine

/-- Whether a dollar sign has been read, and the form of the name after it. -/
inductive Substitution where
  | none
  /-- The name is what letters and numbers follow. -/
  | bare
  /-- The name stands in braces. -/
  | braced
  deriving DecidableEq, Repr

/-- A value under way. -/
structure ValueState where
  singleQuoted : Bool := false
  doubleQuoted : Bool := false
  escaped : Bool := false
  /-- Only blanks and a comment may follow. -/
  ended : Bool := false
  substitution : Substitution := .none
  /-- The name after a dollar sign so far, the newest character first. -/
  name : List Char := []
  /-- The value so far, the newest character first. -/
  done : List Char := []
  deriving DecidableEq, Repr

namespace ValueState

/-- Adds a character to the value. -/
def push (s : ValueState) (c : Char) : ValueState :=
  { s with done := c :: s.done }

/-- Replaces the name after a dollar sign by what it stands for. -/
def substitute (s : ValueState) (value : String → String) : ValueState :=
  { s with
    done := (value (String.ofList s.name.reverse)).toList.reverse ++ s.done
    name := [] }

/-- A character after a backslash. -/
def takeEscaped (s : ValueState) (c : Char) : Option ValueState :=
  let s := { s with escaped := false }
  if c = '\\' || c = '\x27' || c = '"' || c = '$' || c = ' ' then some (s.push c)
  else if c = 'n' then some (s.push '\n')
  else .none

/-- A character in the name after a dollar sign. A quote there ends the name but is itself taken
for text. -/
def takeName (s : ValueState) (value : String → String) (c : Char) : ValueState :=
  if Text.isAlphanumeric c then { s with name := c :: s.name }
  else
    match s.substitution with
    | .braced =>
      if c = '\x7d' then { s.substitute value with substitution := .none }
      else { s with name := c :: s.name }
    | _ =>
      if c = '\x7b' && s.name = [] then { s with substitution := .braced }
      else if c = '$' then { s.substitute value with substitution := .bare }
      else ({ s.substitute value with substitution := .none }).push c

/-- A character of a value. -/
def take (s : ValueState) (value : String → String) (c : Char) : Option ValueState :=
  if s.ended then if c = ' ' || c = '\t' then some s else .none
  else if s.escaped then s.takeEscaped c
  else if s.singleQuoted then
    some (if c = '\x27' then { s with singleQuoted := false } else s.push c)
  else if s.substitution ≠ .none then some (s.takeName value c)
  else if c = '$' then some { s with substitution := .bare }
  else if s.doubleQuoted then
    some (if c = '"' then { s with doubleQuoted := false }
      else if c = '\\' then { s with escaped := true }
      else s.push c)
  else if c = '\x27' then some { s with singleQuoted := true }
  else if c = '"' then some { s with doubleQuoted := true }
  else if c = '\\' then some { s with escaped := true }
  else if c = ' ' || c = '\t' then some { s with ended := true }
  else some (s.push c)

/-- Reads a value to the end of its line or to a comment after it. -/
def takeAll (s : ValueState) (value : String → String) : List Char → Option ValueState
  | [] => some s
  | c :: rest =>
    if s.ended && c = '#' then some s
    else
      match s.take value c with
      | some s => takeAll s value rest
      | Option.none => Option.none

/-- The value at the end of its line, if no quote and no brace is open. -/
def finish (s : ValueState) (value : String → String) : Option String :=
  if s.substitution = .braced || s.singleQuoted || s.doubleQuoted then .none
  else some (String.ofList (s.substitute value).done.reverse)

end ValueState

/-- Reads a variable's name from the front of a line. -/
def readVariable (line : List Char) : Option (List Char × List Char) :=
  match line with
  | [] => none
  | c :: _ =>
    if c.isAlpha || c = '_' then
      let named (c : Char) : Bool := c.isAlphanum || c = '_' || c = '.'
      some (line.takeWhile named, Text.trimStart (line.dropWhile named))
    else none

/-- Reads a variable's name and its equals sign. A first word `export` is passed by unless it is
itself the name. -/
def readAssignment (line : List Char) : Option (String × List Char) := do
  let (name, rest) ← readVariable line
  match rest with
  | '=' :: rest => pure (String.ofList name, Text.trimStart rest)
  | _ =>
    if name = "export".toList then
      match ← readVariable rest with
      | (name, '=' :: rest) => pure (String.ofList name, Text.trimStart rest)
      | _ => none
    else none

/-- Reads a line. The outer option is absent for a line at fault, the inner one for a line that
sets nothing. -/
def readLine (value : String → String) (line : List Char) : Option (Option (String × String)) :=
  let line := Text.trimStart (Text.dropEndWhile Text.isBlank line)
  if line = [] || line.head? = some '#' then some none
  else do
    let (name, rest) ← readAssignment line
    if rest = [] || rest.head? = some '#' then pure (some (name, ""))
    else
      let state ← ValueState.takeAll {} value rest
      let text ← state.finish value
      pure (some (name, text))

/-- The lines of a file, decoded one by one; a line that is no text is at fault. -/
def fileLines (content : ByteArray) : List (Option (List Char)) :=
  let pieces := content.toList.splitOn 0x0a
  let ended := pieces.dropLast.map fun piece =>
    (String.fromUTF8? ⟨piece.toArray⟩).map fun text => Text.dropReturn text.toList
  match pieces.getLastD [] with
  | [] => ended
  | last => ended ++ [(String.fromUTF8? ⟨last.toArray⟩).map String.toList]

/-- Why a variable cannot be set. -/
inductive EnvFault where
  /-- The value of the variable holds the character of code zero. -/
  | zeroInValue (name : String)
  deriving DecidableEq, Repr

/-- The value of a variable. The system keeps a variable as one text, `NAME=VALUE`, so a name that
holds an equals sign is found too, where the text of its first part goes on like it. -/
def lookUp? (environment : Members String) (name : String) : Option String :=
  match name.toList.dropWhile (· ≠ '=') with
  | [] => environment.get? name
  | _ :: rest => do
    let first := String.ofList (name.toList.takeWhile (· ≠ '='))
    let value ← environment.get? first
    let value ← List.isPrefixOf? (rest ++ ['=']) value.toList
    pure (String.ofList value)

/-- Sets a variable, unless it is set already. -/
def setVariable (environment : Members String) (name value : String) :
    Except EnvFault (Members String) :=
  if (environment.get? name).isSome then .ok environment
  else if value.toList.contains '\x00' then .error (.zeroInValue name)
  else .ok (environment.put name value)

/-- Puts the variables of some lines into an environment. `earlier` are those that the lines before
have named, for substitution. -/
def applyLines (environment earlier : Members String) :
    List (Option (List Char)) → Except EnvFault (Members String)
  | [] => .ok environment
  | none :: _ => .ok environment
  | some line :: rest =>
    let value (name : String) : String :=
      ((lookUp? environment name) <|> (earlier.get? name)).getD ""
    match readLine value line with
    | none => .ok environment
    | some none => applyLines environment earlier rest
    | some (some (name, text)) => do
      let environment ← setVariable environment name text
      applyLines environment (earlier.put name text) rest

/-- The content of a file in a directory. -/
def fileIn (fs : FileSystem) (name : String) (directory : Place) : Option ByteArray :=
  match fs.entry? (name :: directory) with
  | some (.regular content) => some content
  | _ => none

/-- The content of the nearest file of a name, in a directory or above it. -/
def nearest (fs : FileSystem) (name : String) : Place → Option ByteArray
  | [] => fileIn fs name []
  | child :: parent => fileIn fs name (child :: parent) <|> nearest fs name parent

/-- Puts the variables of a file into the environment, if there is such a file. -/
def loadEnvFile (name : String) : ExceptT EnvFault Act Unit := do
  let m ← get
  if let some content := nearest m.files name m.files.home then
    let environment ← ofExcept (applyLines m.environment [] (fileLines content))
    set { m with environment }

/-- The files of variables, the ones that count more first. -/
def envFileNames : List String :=
  [".env", ".env.local"]

/-- Puts the variables of all files of variables into the environment. -/
def loadEnvFiles : ExceptT EnvFault Act Unit :=
  envFileNames.forM loadEnvFile

end KeyChord.CommandLine
