/-!
# Blanks, words and lines

Names, headers and listings are cut by the Unicode property White_Space, which holds of 25
characters. Lines end at a newline; a carriage return directly before that newline belongs to the
line break, one before the end of the text does not.
-/

namespace KeyChord.Text

/-- The characters with the Unicode property White_Space. -/
def isBlank (c : Char) : Bool :=
  let n := c.toNat
  (0x09 ≤ n && n ≤ 0x0d) || n == 0x20 || n == 0x85 || n == 0xa0 || n == 0x1680 ||
    (0x2000 ≤ n && n ≤ 0x200a) || n == 0x2028 || n == 0x2029 || n == 0x202f || n == 0x205f ||
    n == 0x3000

/-- Drops the blanks at the front. -/
def trimStart (s : List Char) : List Char :=
  s.dropWhile isBlank

/-- Drops the characters at the end for which `p` holds. -/
def dropEndWhile (p : Char → Bool) (s : List Char) : List Char :=
  (s.reverse.dropWhile p).reverse

/-- Drops the blanks at both ends. -/
def trim (s : List Char) : List Char :=
  dropEndWhile isBlank (trimStart s)

/-- The non-empty stretches between blanks. -/
def words (s : List Char) : List (List Char) :=
  (s.splitOnP isBlank).filter (· ≠ [])

/-- The two sides of the first `sep`, if there is one. -/
def cutAt? (sep : Char) (s : List Char) : Option (List Char × List Char) :=
  match s.dropWhile (· ≠ sep) with
  | [] => none
  | _ :: after => some (s.takeWhile (· ≠ sep), after)

/-- A line without the carriage return that its newline takes along. -/
def dropReturn (line : List Char) : List Char :=
  match line.reverse with
  | '\r' :: rest => rest.reverse
  | _ => line

/-- The lines of a text. What follows the last newline is a line unless it is empty. -/
def lines (s : List Char) : List (List Char) :=
  let pieces := s.splitOn '\n'
  let ended := pieces.dropLast.map dropReturn
  match pieces.getLastD [] with
  | [] => ended
  | last => ended ++ [last]

/-- Capital ASCII letters made small; every other character stays. -/
def asciiLower (s : List Char) : List Char :=
  s.map Char.toLower

/-- Small ASCII letters made capital; every other character stays. -/
def asciiUpper (s : List Char) : List Char :=
  s.map Char.toUpper

@[simp] theorem words_nil : words [] = [] := by
  simp [words, List.splitOnP_nil]

/-- A blank ends the word before it, whatever stands around. -/
theorem words_append_blank {c : Char} (hc : isBlank c = true) (s t : List Char) :
    words (s ++ c :: t) = words s ++ words t := by
  simp [words, List.splitOnP_append_cons s t hc, List.filter_append]

end KeyChord.Text
