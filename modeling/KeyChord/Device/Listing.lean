import KeyChord.Text.Blank
import KeyChord.Text.Number
import KeyChord.Text.Path

/-!
# Listings of the display server's program

The program lists the numbers of its devices one per line, and the properties of a device one per
line as `NAME (ID): VALUE`. A property is looked up by what its line starts with, and its value is
what follows the first colon after that.
-/

namespace KeyChord.Device

open Text

/-- The value of a property on its line, if the line starts with the property's name. -/
def valueOnLine? (name line : List Char) : Option (List Char) := do
  let rest ← List.isPrefixOf? name (trim line)
  let (_, value) ← cutAt? ':' rest
  pure (trim value)

/-- The value of the first property whose line starts with `name`. -/
def property? (listing name : List Char) : Option (List Char) :=
  (lines listing).findSome? (valueOnLine? name)

/-- The property that says whether a device is enabled. -/
def enabledProperty : String := "Device Enabled"

/-- The property that names the node of a device. -/
def nodeProperty : String := "Device Node"

/-- Whether a device is enabled. -/
def enabled? (listing : List Char) : Option Bool :=
  match property? listing enabledProperty.toList with
  | some ['0'] => some false
  | some ['1'] => some true
  | _ => none

/-- The node of a device, without the quotes around it. -/
def node? (listing : List Char) : Option (List Char) :=
  (property? listing nodeProperty.toList).bind fun value =>
    let path := dropEndWhile (· = '"') (value.dropWhile (· = '"'))
    if path = [] then none else some path

/-- The device numbers in a list. Lines that hold no number of 32 bits are passed by. -/
def ids (listing : List Char) : List UInt32 :=
  (lines listing).filterMap fun line => (unsigned? UInt32.size (trim line)).map Nat.toUInt32

/-- Whether a listing is that of a device which reads the node `path`. -/
def readsNode (path listing : List Char) : Bool :=
  match node? listing with
  | some node => samePath node path
  | none => false

/-- The first of some devices that reads the node `path`. -/
def pickByNode? (path : List Char) (candidates : List (UInt32 × List Char)) : Option UInt32 :=
  (candidates.find? fun c => readsNode path c.2).map Prod.fst

end KeyChord.Device
