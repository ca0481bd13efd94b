import KeyChord.Json.Lexeme

/-!
# Reading a JSON text

The reader is an automaton over lexemes. Its stack holds the arrays and objects that are open, at
most 127 of them, and its slot says what is due next; a lexeme either fits the slot or is at fault.
Since only the slot and the stack decide, white space between lexemes cannot matter.
-/

namespace KeyChord.Json

/-- An array or object under way. What is complete stands newest first. -/
inductive Frame where
  | items (done : List Json)
  | members (done : List (String × Json))
  /-- The value of `key` is under way. -/
  | member (done : List (String × Json)) (key : String)

/-- What is due next. -/
inductive Slot where
  | value
  /-- An item or the end of an array that has just been opened. -/
  | firstItem
  /-- An item, after a comma. -/
  | nextItem
  /-- A comma or the end of an array. -/
  | itemEnd
  /-- A key or the end of an object that has just been opened. -/
  | firstKey
  /-- A key, after a comma. -/
  | nextKey
  | colon
  /-- A comma or the end of an object. -/
  | memberEnd
  deriving DecidableEq, Repr

/-- The reader between two lexemes. -/
inductive Reading where
  | due (slot : Slot) (stack : List Frame)
  | finished (value : Json)

/-- The number of arrays and objects that may be open at once. -/
def maxDepth : Nat := 127

/-- Hands a complete value to the innermost open array or object. -/
def deliver (value : Json) : List Frame → Reading
  | .items done :: stack => .due .itemEnd (.items (value :: done) :: stack)
  | .member done key :: stack => .due .memberEnd (.members ((key, value) :: done) :: stack)
  | .members done :: stack => .due .memberEnd (.members done :: stack)
  | [] => .finished value

/-- Closes the innermost array or object. -/
def closeTop : List Frame → Reading
  | .items done :: stack => deliver (.array done.reverse) stack
  | .members done :: stack => deliver (.object done.reverse) stack
  | .member done _ :: stack => deliver (.object done.reverse) stack
  | [] => .finished .null

/-- The fault of the first byte of a lexeme. -/
def Lexeme.fault (l : Lexeme) (kind : FaultKind) : Fault :=
  ⟨kind, l.unread - 1⟩

/-- Opens an array or object unless too many are open. -/
def openFrame (l : Lexeme) (slot : Slot) (frame : Frame) (stack : List Frame) :
    Except Fault Reading :=
  if stack.length < maxDepth then .ok (.due slot (frame :: stack)) else .error (l.fault .tooDeep)

/-- A lexeme where a value is due. -/
def takeValue (l : Lexeme) (stack : List Frame) : Except Fault Reading :=
  match l.kind with
  | .mark .openArray => openFrame l .firstItem (.items []) stack
  | .mark .openObject => openFrame l .firstKey (.members []) stack
  | .mark _ => .error (l.fault .expectedValue)
  | .scalar value => .ok (deliver value stack)
  | .text value => .ok (deliver (.text value) stack)
  | .badScalar fault => .error fault
  | .badText fault => .error fault

/-- A lexeme where a key is due. -/
def takeKey (l : Lexeme) (stack : List Frame) : Except Fault Reading :=
  match l.kind, stack with
  | .text key, .members done :: stack => .ok (.due .colon (.member done key :: stack))
  | .badText fault, _ => .error fault
  | _, _ => .error (l.fault .keyNotText)

/-- One step of the reader. -/
def Reading.step (r : Reading) (l : Lexeme) : Except Fault Reading :=
  match r with
  | .finished _ => .error (l.fault .trailingCharacters)
  | .due slot stack =>
    match slot, l.kind with
    | .value, _ => takeValue l stack
    | .firstItem, .mark .closeArray => .ok (closeTop stack)
    | .firstItem, _ => takeValue l stack
    | .nextItem, .mark .closeArray => .error (l.fault .trailingComma)
    | .nextItem, _ => takeValue l stack
    | .itemEnd, .mark .comma => .ok (.due .nextItem stack)
    | .itemEnd, .mark .closeArray => .ok (closeTop stack)
    | .itemEnd, _ => .error (l.fault .expectedListEnd)
    | .firstKey, .mark .closeObject => .ok (closeTop stack)
    | .firstKey, _ => takeKey l stack
    | .nextKey, .mark .closeObject => .error (l.fault .trailingComma)
    | .nextKey, _ => takeKey l stack
    | .colon, .mark .colon => .ok (.due .value stack)
    | .colon, _ => .error (l.fault .expectedColon)
    | .memberEnd, .mark .comma => .ok (.due .nextKey stack)
    | .memberEnd, .mark .closeObject => .ok (closeTop stack)
    | .memberEnd, _ => .error (l.fault .expectedObjectEnd)

/-- The fault of a text that ends where `slot` is due. -/
def Slot.atEnd : Slot → FaultKind
  | value => .endInValue
  | firstItem => .endInList
  | nextItem => .endInValue
  | itemEnd => .endInList
  | firstKey => .endInObject
  | nextKey => .endInValue
  | colon => .endInObject
  | memberEnd => .endInObject

/-- The value of a list of lexemes. -/
def ofLexemes (ls : List Lexeme) : Except Fault Json := do
  match ← ls.foldlM Reading.step (.due .value []) with
  | .finished value => pure value
  | .due slot _ => throw (.before slot.atEnd [])

/-- Reads a text that holds one JSON value. -/
def read (text : List Char) : Except SyntaxError Json :=
  (ofLexemes (lexemes 0 text)).mapError fun fault => ⟨fault.kind, fault.position text⟩

end KeyChord.Json
