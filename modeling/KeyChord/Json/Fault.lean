/-!
# Faults of a JSON text

A fault says what was wrong and how many bytes of the text were still unread where it was noticed.
For the reader the place is turned into a line and a column: lines count from one, columns count
bytes since the last newline.
-/

namespace KeyChord.Json

/-- What can be wrong with a JSON text. -/
inductive FaultKind where
  | endInValue
  | endInList
  | endInObject
  | endInText
  | expectedValue
  | expectedIdent
  | keyNotText
  | expectedColon
  | expectedListEnd
  | expectedObjectEnd
  | trailingComma
  | trailingCharacters
  | invalidNumber
  | numberOutOfRange
  | controlCharacter
  | invalidEscape
  | loneSurrogate
  | unfinishedSurrogate
  | tooDeep
  deriving DecidableEq, Repr

/-- The wording of a fault. -/
def FaultKind.message : FaultKind → String
  | endInValue => "EOF while parsing a value"
  | endInList => "EOF while parsing a list"
  | endInObject => "EOF while parsing an object"
  | endInText => "EOF while parsing a string"
  | expectedValue => "expected value"
  | expectedIdent => "expected ident"
  | keyNotText => "key must be a string"
  | expectedColon => "expected `:`"
  | expectedListEnd => "expected `,` or `]`"
  | expectedObjectEnd => "expected `,` or `\x7d`"
  | trailingComma => "trailing comma"
  | trailingCharacters => "trailing characters"
  | invalidNumber => "invalid number"
  | numberOutOfRange => "number out of range"
  | controlCharacter => "control character (\\u0000-\\u001F) found while parsing a string"
  | invalidEscape => "invalid escape"
  | loneSurrogate => "lone leading surrogate in hex escape"
  | unfinishedSurrogate => "unexpected end of hex escape"
  | tooDeep => "recursion limit exceeded"

/-- A fault, and the number of bytes unread at its place. -/
structure Fault where
  kind : FaultKind
  unread : Nat
  deriving DecidableEq, Repr

/-- The number of bytes of a text in UTF-8. -/
def byteCount : List Char → Nat
  | [] => 0
  | c :: rest => c.utf8Size + byteCount rest

/-- A fault right after what has been read, with `rest` still to come. -/
def Fault.before (kind : FaultKind) (rest : List Char) : Fault :=
  ⟨kind, byteCount rest⟩

/-- A fault of the first byte of `rest`, which counts as read. At the end of the text there is no
such byte. -/
def Fault.at (kind : FaultKind) (rest : List Char) : Fault :=
  ⟨kind, byteCount rest - 1⟩

/-- A place in a text for the human reader. -/
structure Position where
  line : Nat
  column : Nat
  deriving DecidableEq, Repr

/-- The position after `n` bytes, counting on from `here`. A place inside a character is as many
columns on as bytes of it were read. -/
def Position.advance (here : Position) : Nat → List Char → Position
  | _, [] => here
  | n, c :: rest =>
    if n < c.utf8Size then { here with column := here.column + n }
    else if c = '\n' then Position.advance ⟨here.line + 1, 0⟩ (n - 1) rest
    else Position.advance { here with column := here.column + c.utf8Size } (n - c.utf8Size) rest

/-- Where in `text` a fault was noticed. -/
def Fault.position (fault : Fault) (text : List Char) : Position :=
  Position.advance ⟨1, 0⟩ (byteCount text - fault.unread) text

/-- A fault with its place, as shown to the user. -/
structure SyntaxError where
  kind : FaultKind
  position : Position
  deriving DecidableEq, Repr

/-- The message of a syntax error. -/
def SyntaxError.message (e : SyntaxError) : String :=
  s!"{e.kind.message} at line {e.position.line} column {e.position.column}"

end KeyChord.Json
