import KeyChord.Text.Unprintable

/-!
# Quoted text

Messages show a piece of the user's text in double quotes, in a form that is safe on a terminal
and can be read back: quotes and backslashes take a backslash, the four common controls have
letters, and every other character that does not print is written as its number in hexadecimal.
-/

namespace KeyChord.Text

/-- The hexadecimal digits of a number, small letters and no leading zero. -/
def hex (n : Nat) : String :=
  String.ofList (Nat.toDigits 16 n)

/-- One character inside double quotes. The single quote needs no escape there. -/
def quotedChar (c : Char) : String :=
  match c with
  | '\x00' => "\\0"
  | '\t' => "\\t"
  | '\n' => "\\n"
  | '\r' => "\\r"
  | '"' => "\\\""
  | '\\' => "\\\\"
  | c => if isUnprintable c then "\\u\x7b" ++ hex c.toNat ++ "\x7d" else c.toString

/-- A text in double quotes. -/
def quoted (s : String) : String :=
  "\"" ++ String.join (s.toList.map quotedChar) ++ "\""

end KeyChord.Text
