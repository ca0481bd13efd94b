import KeyChord.Action.Error
import KeyChord.Text.Number

/-!
# Command templates

A command is text with fields in braces: an empty field stands for the next capture, a numbered
one for the capture of that number, counted from zero, and a command has fields of one sort only.
A doubled brace is a plain one. Filling a template copies the captures unchanged, so braces in
them mean nothing.
-/

namespace KeyChord.Action

/-- A piece of a command. -/
inductive Piece where
  | plain (c : Char)
  | slot (index : Nat)
  deriving DecidableEq, Repr

/-- A command and its pieces. -/
structure Template where
  source : String
  pieces : List Piece
  deriving DecidableEq, Repr

/-- How the fields of a command are numbered, as far as it has been read. -/
inductive Numbering where
  /-- There was no field yet. -/
  | undecided
  /-- Fields are empty; so many have been counted. -/
  | counted (next : Nat)
  /-- Fields have numbers. -/
  | numbered
  deriving DecidableEq, Repr

/-- The least number that is no index. -/
def indexLimit : Nat := UInt64.size

/-- The slot of a field, and the numbering from there on. A field of the wrong sort is at fault
before its number is looked at. -/
def slotOf (field : List Char) (numbering : Numbering) : Except TemplateFault (Nat × Numbering) :=
  match field, numbering with
  | [], .undecided => .ok (0, .counted 1)
  | [], .counted n => .ok (n, .counted (n + 1))
  | [], .numbered => .error .mixedNumbering
  | _ :: _, .counted _ => .error .mixedNumbering
  | c :: cs, _ =>
    match Text.unsigned? indexLimit (c :: cs) with
    | some n => .ok (n, .numbered)
    | none => .error (.badField (String.ofList (c :: cs)))

/-- Reads pieces from a text. Inside a field, `field` holds its characters so far, the newest
first. -/
def readPieces (numbering : Numbering) (field : Option (List Char)) :
    List Char → Except TemplateFault (List Piece)
  | [] => if field.isSome then .error .unclosed else .ok []
  | c :: rest =>
    match field with
    | some cs =>
      if c = '\x7d' then do
        let (index, numbering) ← slotOf cs.reverse numbering
        let pieces ← readPieces numbering none rest
        pure (.slot index :: pieces)
      else readPieces numbering (some (c :: cs)) rest
    | none =>
      match c, rest with
      | '\x7b', '\x7b' :: rest => (readPieces numbering none rest).map (.plain '\x7b' :: ·)
      | '\x7d', '\x7d' :: rest => (readPieces numbering none rest).map (.plain '\x7d' :: ·)
      | '\x7d', _ => .error .strayClose
      | '\x7b', rest => readPieces numbering (some []) rest
      | c, rest => (readPieces numbering none rest).map (.plain c :: ·)

namespace Template

/-- Reads a command. -/
def ofText (source : String) : Except TemplateError Template :=
  match readPieces .undecided none source.toList with
  | .ok pieces => .ok ⟨source, pieces⟩
  | .error fault => .error ⟨fault, source⟩

/-- The text of a piece. -/
def fillPiece (captures : List String) : Piece → Except TemplateFault String
  | .plain c => .ok c.toString
  | .slot index =>
    match captures[index]? with
    | some text => .ok text
    | none => .error (.missingCapture index captures.length)

/-- Puts captures into the fields. The first field without a capture is at fault. -/
def fill (t : Template) (captures : List String) : Except TemplateError String :=
  match t.pieces.mapM (fillPiece captures) with
  | .ok texts => .ok (String.join texts)
  | .error fault => .error ⟨fault, t.source⟩

end Template

end KeyChord.Action
