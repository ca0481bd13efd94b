import KeyChord.Json.Fault
import KeyChord.Json.Value

/-!
# Lexemes of a JSON text

A text is cut into lexemes before its structure is looked at. Each lexeme knows how many bytes
were unread at its start. A lexeme that cannot be completed is the last one: it carries its fault,
and whether the fault is reported depends on what was due in its place, so the lexer does not
report it itself.
-/

namespace KeyChord.Json

/-- The marks that give a text its structure. -/
inductive Mark where
  | openArray
  | closeArray
  | openObject
  | closeObject
  | comma
  | colon
  deriving DecidableEq, Repr

/-- What a lexeme is. -/
inductive LexemeKind where
  | mark (m : Mark)
  /-- A name or a number. -/
  | scalar (value : Json)
  /-- A quoted text, unescaped. -/
  | text (value : String)
  /-- A name, a number or a stray character that is at fault. -/
  | badScalar (fault : Fault)
  /-- A quoted text that is at fault. -/
  | badText (fault : Fault)

/-- A lexeme and the number of bytes unread at its start. -/
structure Lexeme where
  unread : Nat
  kind : LexemeKind

/-- White space between lexemes: these four characters only. -/
def isSpace (c : Char) : Bool :=
  c = ' ' || c = '\t' || c = '\n' || c = '\r'

/-! ## Names -/

/-- Reads the rest of one of the names `true`, `false` and `null`, whose first letter is gone. -/
def readName : List Char → List Char → Except Fault (List Char)
  | [], rest => .ok rest
  | _ :: _, [] => .error (.before .endInValue [])
  | expected :: name, c :: rest =>
    if c = expected then readName name rest else .error (.at .expectedIdent (c :: rest))

/-! ## Numbers -/

/-- The value of a decimal digit character. -/
def digitOf (c : Char) : Nat :=
  c.toNat - '0'.toNat

/-- Takes digits into a significand for as long as it fits 64 bits. Answers the significand and the
number of digits taken. -/
def absorb (significand : Nat) : List Char → Nat × Nat
  | [] => (significand, 0)
  | d :: rest =>
    let next := 10 * significand + digitOf d
    if next < UInt64.size then
      let (result, taken) := absorb next rest
      (result, taken + 1)
    else (significand, 0)

/-- `significand * 10 ^ exponent` as a double, by one rounding of the significand and one
multiplication or division by a power of ten. There is none if the result is infinite. -/
def scaleToDouble (significand : Nat) (exponent : Int) : Option Float :=
  let f := significand.toUInt64.toFloat
  if 0 ≤ exponent then
    if exponent ≤ 308 then
      let product := f * Float.ofScientific 1 false exponent.toNat
      if product.isInf then none else some product
    else if significand = 0 then some f else none
  else if -308 ≤ exponent then
    some (f / Float.ofScientific 1 false (-exponent).toNat)
  else if -616 ≤ exponent then
    some (f / Float.ofScientific 1 false 308 / Float.ofScientific 1 false (-exponent - 308).toNat)
  else some 0.0

/-- The double of the given sign, or a fault if the number is too large for one. `rest` follows
the number. -/
def realNumber (negative : Bool) (significand : Nat) (exponent : Int) (rest : List Char) :
    Except Fault (JsonNumber × List Char) :=
  match scaleToDouble significand exponent with
  | some f => .ok (.real (if negative then -f else f), rest)
  | none => .error (.before .numberOutOfRange rest)

/-- The least exponent that 31 bits cannot hold. -/
def exponentLimit : Nat := 2147483648

/-- The digits of an exponent, in words of 31 bits: the value and what follows, or, when the
value gets too large, what follows the digit that made it so. -/
def exponentDigits (value : Nat) : List Char → Except (List Char) (Nat × List Char)
  | [] => .ok (value, [])
  | c :: rest =>
    if c.isDigit then
      let next := 10 * value + digitOf c
      if next < exponentLimit then exponentDigits next rest else .error rest
    else .ok (value, c :: rest)

/-- Reads an exponent, whose letter is gone, and finishes the number. An exponent beyond its word
makes the number zero or, if it is positive and the significand is not zero, too large. -/
def readExponent (negative : Bool) (significand : Nat) (shift : Int) (s : List Char) :
    Except Fault (JsonNumber × List Char) :=
  let (down, s) := match s with
    | '+' :: rest => (false, rest)
    | '-' :: rest => (true, rest)
    | _ => (false, s)
  match s with
  | [] => .error (.before .endInValue [])
  | c :: rest =>
    if c.isDigit then
      match exponentDigits (digitOf c) rest with
      | .ok (value, rest) =>
        realNumber negative significand (if down then shift - value else shift + value) rest
      | .error rest =>
        if significand ≠ 0 && !down then .error (.before .numberOutOfRange rest)
        else .ok (.real (if negative then -0.0 else 0.0), rest.dropWhile Char.isDigit)
    else .error (.at .invalidNumber (c :: rest))

/-- What may follow the digits of a number: an exponent or nothing. -/
def readTail (negative : Bool) (significand : Nat) (shift : Int) (s : List Char) :
    Except Fault (JsonNumber × List Char) :=
  match s with
  | 'e' :: rest => readExponent negative significand shift rest
  | 'E' :: rest => readExponent negative significand shift rest
  | _ => realNumber negative significand shift s

/-- Reads a fraction, whose point is gone, and finishes the number. Digits that the significand
cannot take any more are skipped. -/
def readFraction (negative : Bool) (significand : Nat) (shift : Int) (s : List Char) :
    Except Fault (JsonNumber × List Char) :=
  let digits := s.takeWhile Char.isDigit
  let rest := s.dropWhile Char.isDigit
  match digits, rest with
  | [], [] => .error (.before .endInValue [])
  | [], _ => .error (.at .invalidNumber rest)
  | _, _ =>
    let (significand, taken) := absorb significand digits
    readTail negative significand (shift - taken) rest

/-- The greatest magnitude of a negative number of 64 bits. -/
def negativeLimit : Nat := 9223372036854775808

/-- A whole number of the given sign. `-0` and what 64 bits cannot hold become doubles. -/
def wholeNumber (negative : Bool) (significand : Nat) : JsonNumber :=
  if negative then
    if significand = 0 || negativeLimit < significand then .real (-significand.toUInt64.toFloat)
    else .whole (-(significand : Int))
  else .whole significand

/-- What follows the whole part of a number. `skipped` digits did not fit the significand. -/
def afterWhole (negative : Bool) (significand skipped : Nat) (s : List Char) :
    Except Fault (JsonNumber × List Char) :=
  match s with
  | '.' :: rest => readFraction negative significand skipped rest
  | 'e' :: rest => readExponent negative significand skipped rest
  | 'E' :: rest => readExponent negative significand skipped rest
  | _ =>
    if skipped = 0 then .ok (wholeNumber negative significand, s)
    else realNumber negative significand skipped s

/-- Reads a number without its sign. A leading zero stands alone. -/
def readNumber (negative : Bool) (s : List Char) : Except Fault (JsonNumber × List Char) :=
  match s with
  | [] => .error (.before .endInValue [])
  | '0' :: rest =>
    match rest with
    | c :: _ => if c.isDigit then .error (.at .invalidNumber rest) else afterWhole negative 0 0 rest
    | [] => afterWhole negative 0 0 rest
  | c :: _ =>
    if c.isDigit then
      let digits := s.takeWhile Char.isDigit
      let (significand, taken) := absorb 0 digits
      afterWhole negative significand (digits.length - taken) (s.dropWhile Char.isDigit)
    else .error (.at .invalidNumber s)

/-! ## Quoted texts -/

/-- The value of a hexadecimal digit of either case. -/
def hexDigit? (c : Char) : Option Nat :=
  if c.isDigit then some (digitOf c)
  else if 'a' ≤ c && c ≤ 'f' then some (c.toNat - 'a'.toNat + 10)
  else if 'A' ≤ c && c ≤ 'F' then some (c.toNat - 'A'.toNat + 10)
  else none

/-- The number that four hexadecimal digits spell. -/
def hexWord? (a b c d : Char) : Option Nat := do
  let a ← hexDigit? a
  let b ← hexDigit? b
  let c ← hexDigit? c
  let d ← hexDigit? d
  pure (((a * 16 + b) * 16 + c) * 16 + d)

/-- The fault of a hexadecimal escape whose digits are missing or wrong: four bytes are read
whatever they are, and with fewer the text is at its end. -/
def badHex (s : List Char) : Fault :=
  if byteCount s < 4 then .before .endInText [] else ⟨.invalidEscape, byteCount s - 4⟩

/-- The character of an escape letter. -/
def escaped? (c : Char) : Option Char :=
  match c with
  | '"' => some '"'
  | '\\' => some '\\'
  | '/' => some '/'
  | 'b' => some '\x08'
  | 'f' => some '\x0c'
  | 'n' => some '\n'
  | 'r' => some '\r'
  | 't' => some '\t'
  | _ => none

/-- Whether a code unit is the second half of a pair. -/
def isTrailing (n : Nat) : Bool :=
  0xdc00 ≤ n && n ≤ 0xdfff

/-- Whether a code unit is the first half of a pair. -/
def isLeading (n : Nat) : Bool :=
  0xd800 ≤ n && n ≤ 0xdbff

/-- The character of a pair of code units. -/
def paired (high low : Nat) : Char :=
  Char.ofNat ((high - 0xd800) * 0x400 + (low - 0xdc00) + 0x10000)

/-- Reads a quoted text, whose opening quote is gone; `done` holds its characters so far, the
newest first. Answers the text and what follows its closing quote. -/
def readText (done : List Char) : List Char → Except Fault (String × List Char)
  | [] => .error (.before .endInText [])
  | '"' :: rest => .ok (String.ofList done.reverse, rest)
  | '\\' :: 'u' :: a :: b :: c :: d :: rest =>
    match hexWord? a b c d with
    | none => .error (badHex (a :: b :: c :: d :: rest))
    | some unit =>
      if isTrailing unit then .error (.before .loneSurrogate rest)
      else if isLeading unit then
        match rest with
        | '\\' :: 'u' :: e :: f :: g :: h :: rest =>
          match hexWord? e f g h with
          | none => .error (badHex (e :: f :: g :: h :: rest))
          | some low =>
            if isTrailing low then readText (paired unit low :: done) rest
            else .error (.before .loneSurrogate rest)
        | '\\' :: 'u' :: few => .error (badHex few)
        | ['\\'] => .error (.before .endInText [])
        | '\\' :: other => .error (.at .unfinishedSurrogate other)
        | [] => .error (.before .endInText [])
        | other => .error (.at .unfinishedSurrogate other)
      else readText (Char.ofNat unit :: done) rest
  | '\\' :: 'u' :: few => .error (badHex few)
  | ['\\'] => .error (.before .endInText [])
  | '\\' :: c :: rest =>
    match escaped? c with
    | some e => readText (e :: done) rest
    | none => .error (.at .invalidEscape (c :: rest))
  | c :: rest =>
    if c.toNat < 0x20 then .error (.before .controlCharacter rest) else readText (c :: done) rest

/-! ## Lexemes -/

/-- The mark a character is, if it is one. -/
def mark? (c : Char) : Option Mark :=
  match c with
  | '[' => some .openArray
  | ']' => some .closeArray
  | '\x7b' => some .openObject
  | '\x7d' => some .closeObject
  | ',' => some .comma
  | ':' => some .colon
  | _ => none

/-- Reads a name, a number or a stray character. -/
def readScalar (s : List Char) : Except Fault (Json × List Char) :=
  match s with
  | 'n' :: rest => (readName ['u', 'l', 'l'] rest).map fun r => (.null, r)
  | 't' :: rest => (readName ['r', 'u', 'e'] rest).map fun r => (.bool true, r)
  | 'f' :: rest => (readName ['a', 'l', 's', 'e'] rest).map fun r => (.bool false, r)
  | '-' :: rest => (readNumber true rest).map fun (n, r) => (.number n, r)
  | c :: _ =>
    if c.isDigit then (readNumber false s).map fun (n, r) => (.number n, r)
    else .error (.at .expectedValue s)
  | [] => .error (.before .endInValue [])

/-- The lexeme that begins with `c`, and what follows it. -/
def readLexeme (c : Char) (rest : List Char) : LexemeKind × List Char :=
  match mark? c with
  | some m => (.mark m, rest)
  | none =>
    if c = '"' then
      match readText [] rest with
      | .ok (value, rest) => (.text value, rest)
      | .error fault => (.badText fault, [])
    else
      match readScalar (c :: rest) with
      | .ok (value, rest) => (.scalar value, rest)
      | .error fault => (.badScalar fault, [])

/-- The lexemes of a text whose first `skip` characters are spoken for. -/
def lexemes (skip : Nat) : List Char → List Lexeme
  | [] => []
  | c :: rest =>
    match skip with
    | n + 1 => lexemes n rest
    | 0 =>
      if isSpace c then lexemes 0 rest
      else
        let (kind, after) := readLexeme c rest
        ⟨byteCount (c :: rest), kind⟩ :: lexemes (rest.length - after.length) rest

end KeyChord.Json
