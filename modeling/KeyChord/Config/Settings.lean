import KeyChord.Config.Comment
import KeyChord.Config.Error
import KeyChord.Json.Reader
import KeyChord.Key.Namespace
import KeyChord.Machine.Files
import KeyChord.Members

/-!
# Settings

The settings are read from one or more layers, each a JSON object with comments. Layers are merged
by top-level key before any value is looked at, so a value that a later layer replaces is never
checked. What has been read is a value of `Settings`, whose two special keys differ by
construction.
-/

namespace KeyChord.Config

open Key

/-- How the input device is found, and the state it gets for the display server meanwhile. -/
structure Device where
  path : Option String := none
  name : Option String := none
  /-- The display server's number of the device. -/
  xid : Option UInt32 := none
  /-- Whether the display server is to use the device while the program runs. -/
  defaultState : Option Bool := none
  deriving DecidableEq, Repr

/-- Whether there is any way of finding the device. -/
def Device.isConfigured (d : Device) : Bool :=
  d.path.isSome || d.name.isSome || d.xid.isSome

/-- The members of a configuration as they are written, or their defaults. -/
structure Draft where
  device : Device := {}
  keyNamespace : String := "key"
  resetKey : String := "ESC"
  wildcardKey : String := "ENTER"
  schemes : Members Json := []

/-- A key name without a pair of brackets around it. -/
def stripBrackets (name : String) : String :=
  match name.toList with
  | '<' :: inner =>
    match inner.reverse with
    | '>' :: name => String.ofList name.reverse
    | _ => name
  | _ => name

/-- Whether two key names differ in more than the case of ASCII letters. -/
def Differ (a b : String) : Prop :=
  Text.asciiLower a.toList ≠ Text.asciiLower b.toList

instance (a b : String) : Decidable (Differ a b) :=
  inferInstanceAs (Decidable (_ ≠ _))

/-- What a configuration says. -/
structure Settings where
  device : Device
  keyNamespace : Namespace
  /-- The name of the key that drops the buffer. -/
  resetKey : String
  /-- The name of the key that ends a wildcard. -/
  wildcardKey : String
  /-- The schemes in order, unread. -/
  schemes : Members Json
  keys_differ : Differ resetKey wildcardKey

/-! ## Reading values -/

/-- A text. -/
def readText (v : Json) : Except Mismatch String :=
  match v with
  | .text s => .ok s
  | v => .error (.wrongType v .text)

/-- A value that may be absent or null. -/
def readOption {α : Type} (read : Json → Except Mismatch α) (v : Json) :
    Except Mismatch (Option α) :=
  match v with
  | .null => .ok none
  | v => (read v).map some

/-- A path. -/
def readPath (v : Json) : Except Mismatch String :=
  match v with
  | .text s => .ok s
  | v => .error (.wrongType v .path)

/-- An unsigned number of 32 bits. -/
def readWord (v : Json) : Except Mismatch UInt32 :=
  match v with
  | .number (.whole n) =>
    if 0 ≤ n ∧ n < UInt32.size then .ok n.toNat.toUInt32 else .error (.outOfRange v .word32)
  | v => .error (.wrongType v .word32)

/-- A state: a truth value, or a level of which only zero is off. -/
def readState (v : Json) : Except Mismatch Bool :=
  match v with
  | .bool b => .ok b
  | .number (.whole n) => if 0 ≤ n ∧ n < 256 then .ok (n ≠ 0) else .error .noState
  | _ => .error .noState

/-- Takes one member of a device over. Unknown members are passed by. -/
def Device.take (d : Device) (member : String × Json) : Except Mismatch Device :=
  match member.1 with
  | "path" => (readOption readPath member.2).map fun path => { d with path }
  | "name" => (readOption readText member.2).map fun name => { d with name }
  | "xid" => (readOption readWord member.2).map fun xid => { d with xid }
  | "default_state" =>
    (readOption readState member.2).map fun defaultState => { d with defaultState }
  | _ => .ok d

/-- The members of a device in the order in which an array lists them. -/
def Device.memberNames : List String :=
  ["path", "name", "xid", "default_state"]

/-- A device, written as an object or as an array of its members. -/
def readDevice (v : Json) : Except Mismatch Device :=
  match v with
  | .object members => (Members.ofList members).foldlM Device.take {}
  | .array items => do
    let device ← (Device.memberNames.zip items).foldlM Device.take {}
    if Device.memberNames.length < items.length then throw (.tooManyItems items.length)
    pure device
  | v => .error (.wrongType v .device)

/-- The schemes by name. -/
def readSchemes (v : Json) : Except Mismatch (Members Json) :=
  match v with
  | .object members => .ok (.ofList members)
  | v => .error (.wrongType v .map)

/-- Takes one top-level member over. Unknown members are passed by. -/
def Draft.take (d : Draft) (member : String × Json) : Except Mismatch Draft :=
  match member.1 with
  | "device" => (readDevice member.2).map fun device => { d with device }
  | "namespace" => (readText member.2).map fun keyNamespace => { d with keyNamespace }
  | "reset_key" => (readText member.2).map fun resetKey => { d with resetKey }
  | "wildcard_key" => (readText member.2).map fun wildcardKey => { d with wildcardKey }
  | "expressions" => (readSchemes member.2).map fun schemes => { d with schemes }
  | _ => .ok d

/-! ## Reading layers -/

/-- The members of one layer. -/
def readLayer (origin : String) (text : String) : Except ConfigError (Members Json) :=
  match Json.read (stripComments text.toList) with
  | .error e => .error (.badText origin (.syntactic e))
  | .ok (.object members) => .ok (.ofList members)
  | .ok _ => .error (.notAnObject origin)

/-- The members of a file. -/
def readFile (fs : FileSystem) (path : String) : Except ConfigError (Members Json) :=
  match fs.readText path with
  | .error fault => .error (.unreadable path fault)
  | .ok text => readLayer path text

/-- Checks what a draft says: the namespace first, then that the special keys differ. -/
def Draft.check (d : Draft) : Except ConfigError Settings :=
  match Namespace.ofText? d.keyNamespace with
  | none => .error (.unknownNamespace d.keyNamespace)
  | some keyNamespace =>
    let resetKey := stripBrackets d.resetKey
    let wildcardKey := stripBrackets d.wildcardKey
    if h : Differ resetKey wildcardKey then
      .ok ⟨d.device, keyNamespace, resetKey, wildcardKey, d.schemes, h⟩
    else .error (.sameKeys resetKey)

namespace Settings

/-- The settings that top-level members make. They are read in order, and the first value of a
wrong type is at fault. -/
def ofMembers (origin : String) (members : Members Json) : Except ConfigError Settings :=
  match members.foldlM Draft.take {} with
  | .error m => .error (.badText origin (.mismatch m))
  | .ok draft => draft.check

/-- Reads settings from one text. -/
def ofText (text : String) : Except ConfigError Settings := do
  let members ← readLayer "inline config" text
  ofMembers "inline config" members

/-- The merged members of files, later files over earlier ones. -/
def mergeFiles (fs : FileSystem) (paths : List String) : Except ConfigError (Members Json) :=
  paths.foldlM (fun merged path => (readFile fs path).map merged.putAll) []

/-- Loads settings from files. -/
def load (fs : FileSystem) (paths : List String) : Except ConfigError Settings := do
  if paths = [] then throw .noFiles
  let members ← mergeFiles fs paths
  ofMembers "merged config" members

end Settings

end KeyChord.Config
