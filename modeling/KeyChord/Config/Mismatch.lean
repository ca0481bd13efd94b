import KeyChord.Decimal.Shortest
import KeyChord.Json.Value
import KeyChord.Text.Quoted

/-!
# Values of the wrong type

A configuration that is well-formed JSON may still hold a value where another type is wanted. The
message names what was found and what was expected.
-/

namespace KeyChord.Config

/-- The text of a double: the fewest digits that read back. From one hundred-thousandth up to ten
quadrillion it is positional and has at least one decimal; elsewhere it has an exponent, always with
a sign. -/
def realText (x : Float) : String :=
  let bits := x.toBits
  let sign := if Decimal.isNegative bits then "-" else ""
  if x == 0.0 then sign ++ "0.0"
  else
    let d := Decimal.shortest (.ofBits bits)
    let digits := Nat.toDigits 10 d.digits
    let count : Int := digits.length
    let lead : Int := d.exponent + count - 1
    let body : List Char :=
      if -5 ≤ lead && lead ≤ 15 then
        if lead < 0 then ['0', '.'] ++ List.replicate (-lead - 1).toNat '0' ++ digits
        else if count ≤ lead + 1 then
          digits ++ List.replicate (lead + 1 - count).toNat '0' ++ ['.', '0']
        else digits.take (lead + 1).toNat ++ ['.'] ++ digits.drop (lead + 1).toNat
      else
        let fraction := if digits.tail = [] then [] else '.' :: digits.tail
        digits.take 1 ++ fraction ++ ['e', if lead < 0 then '-' else '+'] ++
          Nat.toDigits 10 lead.natAbs
    sign ++ String.ofList body

/-- What a value is called in a message. -/
def describe : Json → String
  | .null => "null"
  | .bool value => s!"boolean `{value}`"
  | .number (.whole value) => s!"integer `{value}`"
  | .number (.real value) => s!"floating point `{realText value}`"
  | .text value => "string " ++ Text.quoted value
  | .array _ => "sequence"
  | .object _ => "map"

/-- What a member of the configuration can be expected to be. -/
inductive Expected where
  | text
  | path
  | word32
  | map
  | device
  deriving DecidableEq, Repr

/-- The wording of an expectation. -/
def Expected.message : Expected → String
  | text => "a string"
  | path => "path string"
  | word32 => "u32"
  | map => "a map"
  | device => "struct DeviceConfig"

/-- A value that does not fit its place. -/
inductive Mismatch where
  | wrongType (found : Json) (expected : Expected)
  /-- An integer that the word it is wanted for cannot hold. -/
  | outOfRange (found : Json) (expected : Expected)
  /-- A device written as an array with more than its four items. -/
  | tooManyItems (count : Nat)
  /-- A default state that is neither a truth value nor a level. -/
  | noState

/-- The message of a mismatch. -/
def Mismatch.message : Mismatch → String
  | wrongType found expected => s!"invalid type: {describe found}, expected {expected.message}"
  | outOfRange found expected => s!"invalid value: {describe found}, expected {expected.message}"
  | tooManyItems count => s!"invalid length {count}, expected fewer elements in array"
  | noState => "data did not match any variant of untagged enum StateValue"

end KeyChord.Config
