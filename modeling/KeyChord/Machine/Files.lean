import KeyChord.Key.Event
import KeyChord.Machine.Fault

/-!
# Files and devices

The file system is a table from places to entries. A place is the list of names on the way from
the root, innermost first, so the parent of a place is its tail. A path is walked name by name:
every name but the last must lead to a directory.
-/

namespace KeyChord

open Key

/-- A signal that ends a program which does not handle it. The others, which tell of a child that
has changed or of a window that has another size, or hold a program for a while, change nothing that
is looked at here, so the program does not get them. -/
inductive Signal where
  | hangup
  | interrupt
  | terminate
  | segmentation
  | abort
  /-- Any other signal that ends a program, by its number. -/
  | other (number : Nat)
  deriving DecidableEq, Repr

/-- The number of a signal. -/
def Signal.number : Signal → Nat
  | hangup => 1
  | interrupt => 2
  | terminate => 15
  | segmentation => 11
  | abort => 6
  | other n => n

/-- The signal of a number, where that is the number of one. -/
def Signal.ofNumber (n : Nat) : Signal :=
  if n = 1 then hangup
  else if n = 2 then interrupt
  else if n = 15 then terminate
  else if n = 11 then segmentation
  else if n = 6 then abort
  else other n

/-- What happens when a device has delivered all its events. -/
inductive FeedEnd where
  /-- The device can no longer be read. -/
  | lost (fault : MachineFault)
  /-- The program gets a signal while it waits for more. -/
  | signal (s : Signal)
  deriving DecidableEq, Repr

/-- An input device: its name, whether it reports keys at all, why it cannot be opened, and the
batches of events that it will deliver. -/
structure InputDevice where
  name : Option String
  reportsKeys : Bool
  refusal : Option MachineFault
  batches : List (List RawEvent)
  finish : FeedEnd
  deriving DecidableEq, Repr

/-- The longest name of a device, in bytes. -/
def InputDevice.maxName : Nat := 255

/-- The start of a name that fits in a number of bytes. A character that is cut in two is
replaced. -/
def InputDevice.cutName (room : Nat) : List Char → List Char
  | [] => []
  | c :: rest =>
    if c.utf8Size ≤ room then c :: cutName (room - c.utf8Size) rest
    else if room = 0 then []
    else ['\ufffd']

/-- The name that a device reports: up to the character of code zero, and no longer than a name may
be. A device with an empty name has none. -/
def InputDevice.reportedName (d : InputDevice) : Option String :=
  (d.name.map fun name =>
    String.ofList (cutName maxName (name.toList.takeWhile (· ≠ '\x00')))).filter (· ≠ "")

/-- What stands at a place. -/
inductive Entry where
  | regular (content : ByteArray)
  | directory
  /-- A device that swallows what is written and reads as empty. -/
  | sink
  /-- A device that is always full. -/
  | full
  | input (device : InputDevice)

/-- A place: the names from the root to it, innermost first. -/
abbrev Place := List String

/-- The entries of the file system, and the directory that relative paths start from. The root is
a directory without an entry. -/
structure FileSystem where
  entries : List (Place × Entry)
  home : Place

namespace FileSystem

/-- What stands at a place. -/
def entry? (fs : FileSystem) : Place → Option Entry
  | [] => some .directory
  | place => fs.entries.lookup place

/-- Puts an entry at a place of a table, over what stands there. -/
def replaceAt (place : Place) (e : Entry) : List (Place × Entry) → List (Place × Entry)
  | [] => [(place, e)]
  | (p, old) :: rest => if p = place then (p, e) :: rest else (p, old) :: replaceAt place e rest

/-- Puts an entry at a place, over what stands there. -/
def set (fs : FileSystem) (place : Place) (e : Entry) : FileSystem :=
  { fs with entries := replaceAt place e fs.entries }

/-- The longest name of an entry, in bytes. -/
def maxName : Nat := 255

/-- The longest path, in bytes. -/
def maxPath : Nat := 4095

/-- Goes from a place to one of its entries, or up, or stays. -/
def walk (fs : FileSystem) (place : Place) (name : String) : Except MachineFault Place :=
  match fs.entry? place with
  | some .directory =>
    if name = "." then .ok place
    else if name = ".." then .ok place.tail
    else if maxName < name.utf8ByteSize then .error .nameTooLong
    else if (fs.entry? (name :: place)).isSome then .ok (name :: place)
    else .error .noEntry
  | some _ => .error .notDirectory
  | none => .error .noEntry

/-- The names on a path, without the empty ones that repeated slashes make. -/
def pathNames (path : String) : List String :=
  ((path.toList.splitOn '/').filter (· ≠ [])).map String.ofList

/-- What a path leads to. -/
inductive Target where
  | found (place : Place) (e : Entry)
  /-- Nothing yet, in a directory that exists. -/
  | vacant (place : Place)

/-- Whether a path demands a directory by its last character. -/
def endsInSlash (path : String) : Bool :=
  path.toList.getLast? = some '/'

/-- Whether a name leads to a directory without being the name of an entry. -/
def isDots (name : String) : Bool :=
  name = "." || name = ".."

/-- Why nothing can be made at a path whose last name is to stand in the directory `parent`: a slash
after that name asks for a directory, and only a file could be made. -/
def refuseMaking (fs : FileSystem) (path : String) (parent : Place) (last : String) :
    Except MachineFault Unit :=
  match fs.entry? parent with
  | some .directory =>
    if endsInSlash path && !isDots last then .error .isDirectory else .ok ()
  | _ => .ok ()

/-- Follows a path to what it names. Where a file may be made, a path that forbids this is refused
before its last name is looked at. -/
def locate (fs : FileSystem) (path : String) (making : Bool) : Except MachineFault Target := do
  if path.toList.contains '\x00' then throw .zeroInPath
  if path = "" then throw .noEntry
  if maxPath < path.utf8ByteSize then throw .nameTooLong
  let start := if path.toList.head? = some '/' then [] else fs.home
  let names := pathNames path
  match names.getLast? with
  | none => pure (.found [] .directory)
  | some last =>
    let parent ← names.dropLast.foldlM fs.walk start
    if making then fs.refuseMaking path parent last
    match fs.walk parent last with
    | .ok place =>
      match fs.entry? place with
      | some e => pure (.found place e)
      | none => throw .noEntry
    | .error .noEntry =>
      match fs.entry? parent with
      | some .directory => pure (.vacant (last :: parent))
      | _ => throw .noEntry
    | .error fault => throw fault

/-- What stands at the end of a path. A path that ends in a slash leads to directories only. -/
def resolve (fs : FileSystem) (path : String) : Except MachineFault Entry := do
  match ← fs.locate path false with
  | .found _ .directory => pure .directory
  | .found _ e => if endsInSlash path then throw .notDirectory else pure e
  | .vacant _ => throw .noEntry

/-- Whether a path leads anywhere. -/
def exists? (fs : FileSystem) (path : String) : Bool :=
  (fs.resolve path).isOk

/-- The bytes of a file. -/
def readBytes (fs : FileSystem) (path : String) : Except MachineFault ByteArray := do
  match ← fs.resolve path with
  | .regular content => pure content
  | .directory => throw .isDirectory
  | .sink => pure .empty
  | .full => pure .empty
  | .input _ => throw .noDevice

/-- The text of a file. -/
def readText (fs : FileSystem) (path : String) : Except MachineFault String := do
  match String.fromUTF8? (← fs.readBytes path) with
  | some text => pure text
  | none => throw .notText

/-- How a file is written. -/
inductive WriteMode where
  /-- In place of what it held. -/
  | truncate
  /-- After what it held. -/
  | append
  deriving DecidableEq, Repr

/-- What a file holds after a write. -/
def WriteMode.apply (mode : WriteMode) (old new : ByteArray) : ByteArray :=
  match mode with
  | truncate => new
  | append => old ++ new

/-- Opens a file for writing, making it if nothing is there, and writes a text to it. -/
def writeText (fs : FileSystem) (path : String) (mode : WriteMode) (text : String) :
    Except MachineFault FileSystem := do
  match ← fs.locate path true with
  | .found _ .directory => throw .isDirectory
  | .found place (.regular content) =>
    pure (fs.set place (.regular (mode.apply content text.toUTF8)))
  | .found _ .full => if text = "" then pure fs else throw .noSpace
  | .found _ _ => pure fs
  | .vacant place => pure (fs.set place (.regular text.toUTF8))

/-- Opens an input device. -/
def openInput (fs : FileSystem) (path : String) : Except MachineFault InputDevice := do
  match ← fs.resolve path with
  | .input device =>
    match device.refusal with
    | some fault => throw fault
    | none => pure device
  | _ => throw .notInput

/-- The directory of the input devices. -/
def inputPlace : Place := ["input", "dev"]

/-- The input devices that can be opened, with their paths, among the entries whose names mark
them as event devices. -/
def inputDevices (fs : FileSystem) : List (String × InputDevice) :=
  fs.entries.filterMap fun (place, e) =>
    match place, e with
    | name :: parent, .input device =>
      if parent = inputPlace && (List.isPrefixOf "event".toList name.toList) &&
          device.refusal.isNone then
        some ("/dev/input/" ++ name, device)
      else none
    | _, _ => none

end FileSystem

end KeyChord
