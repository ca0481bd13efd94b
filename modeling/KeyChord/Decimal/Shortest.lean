/-!
# The shortest decimal that reads back

A binary floating-point number stands for every real that rounds to it. Among the decimals in
that interval the ones with the fewest digits are looked for, and of those the nearest to the
number itself is taken; an exact tie goes to the even last digit. The search is exact arithmetic
on natural numbers: a grid of decimals meets the interval only if one of the two grid points next
to the number does.
-/

namespace KeyChord.Decimal

/-- A positive binary number `mantissa * 2 ^ exponent`. `narrow` marks a power of two, below
which the neighbouring number is only half as far away as above. -/
structure Binary where
  mantissa : Nat
  exponent : Int
  narrow : Bool

/-- The decimal `digits * 10 ^ exponent`. -/
structure Digits where
  digits : Nat
  exponent : Int
  deriving DecidableEq, Repr

/-- The weight of a double's leading bit, which is not stored: 52 places up. -/
def leadingBit : Nat := 4503599627370496

/-- The number of values of a double's exponent field. -/
def fieldSize : Nat := 2048

/-- The magnitude of a finite double that is not zero, from its bits. -/
def Binary.ofBits (bits : UInt64) : Binary :=
  let fraction := bits.toNat % leadingBit
  let field := bits.toNat / leadingBit % fieldSize
  if field = 0 then ⟨fraction, -1074, false⟩
  else ⟨leadingBit + fraction, (field : Int) - 1075, fraction = 0 && 1 < field⟩

/-- Whether the bits of a double carry a minus sign. -/
def isNegative (bits : UInt64) : Bool :=
  leadingBit * fieldSize ≤ bits.toNat

/-- `n * 10 ^ e`, with the factor kept on the side where it is whole. -/
private def timesTen (e : Int) (n : Nat) : Nat :=
  n * Nat.pow 10 e.toNat

/-- The number and the two ends of its interval over one denominator, which is `4 * 2 ^ (-q)` or
`4`: the value is `4 m`, the upper end `4 m + 2`, the lower end `4 m - 2` or, at a power of two,
`4 m - 1`. -/
private def scaled (b : Binary) : Nat × Nat × Nat × Nat :=
  let up := Nat.pow 2 b.exponent.toNat
  let den := 4 * Nat.pow 2 (-b.exponent).toNat
  (4 * b.mantissa * up, (4 * b.mantissa - if b.narrow then 1 else 2) * up,
    (4 * b.mantissa + 2) * up, den)

/-- The grid points `k * 10 ^ e` next to the number that lie in its interval, nearest first. The
ends belong to the interval when the mantissa is even. -/
private def candidates (b : Binary) (e : Int) : List Nat :=
  let (value, low, high, den) := scaled b
  let unit := timesTen e den
  let value := timesTen (-e) value
  let low := timesTen (-e) low
  let high := timesTen (-e) high
  let inside (k : Nat) : Bool :=
    if b.mantissa % 2 = 0 then low ≤ k * unit && k * unit ≤ high
    else low < k * unit && k * unit < high
  let below := value / unit
  let above := below + 1
  let distances := (value - below * unit, above * unit - value)
  let ordered :=
    if distances.1 < distances.2 || (distances.1 = distances.2 && below % 2 = 0)
    then [below, above] else [above, below]
  ordered.filter fun k => 0 < k && inside k

/-- The number of decimal digits of a positive number. -/
def digitCount (n : Nat) : Nat :=
  (Nat.toDigits 10 n).length

/-- The exponent of the leading digit, up to one too large. -/
private def leading (b : Binary) : Int :=
  let (value, _, _, den) := scaled b
  if den ≤ value then digitCount (value / den) else 1 - (digitCount (den / value) : Int)

/-- The shortest decimal of a positive number. Grids are tried from coarse to fine, so the first
one that meets the interval has the fewest digits and its point does not end in a zero. Seventeen
digits always suffice, and the first grid tried is too coarse to hold more than the digit one. -/
def shortest (b : Binary) : Digits :=
  let top := leading b
  let grids : List Int := (List.range 20).map fun (i : Nat) => top - (i : Int)
  let found := grids.findSome? fun e => (candidates b e).head?.map fun k => (⟨k, e⟩ : Digits)
  found.getD ⟨b.mantissa, b.exponent⟩

end KeyChord.Decimal
