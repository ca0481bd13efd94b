import KeyChord.Text.Blank

/-!
# Comments in configuration files

A line whose first character after blanks is `#` is a comment. Comments are dropped line by line
before the text is read; the lines that stay are joined by plain newlines, without one at the
end.
-/

namespace KeyChord.Config

/-- Whether a line is a comment. -/
def isComment (line : List Char) : Bool :=
  (Text.trimStart line).head? = some '#'

/-- A text without its comments. -/
def stripComments (text : List Char) : List Char :=
  ['\n'].intercalate ((Text.lines text).filter fun line => !isComment line)

end KeyChord.Config
