/-!
# Unsigned numbers in text

A number is decimal digits after at most one plus sign; a number that does not fit the word it is
read into is no number.
-/

namespace KeyChord.Text

/-- The value of a decimal digit. -/
def digitValue? (c : Char) : Option Nat :=
  if c.isDigit then some (c.toNat - '0'.toNat) else none

/-- The number that a non-empty list of decimal digits spells. -/
def digits? : List Char → Option Nat
  | [] => none
  | cs => cs.foldlM (fun n c => (digitValue? c).map (10 * n + ·)) 0

/-- Reads an unsigned number below a limit. -/
def unsigned? (limit : Nat) (s : List Char) : Option Nat :=
  let body := match s with
    | '+' :: rest => rest
    | _ => s
  (digits? body).filter (· < limit)

end KeyChord.Text
