import KeyChord.Device.Toggle
import KeyChord.Machine.Basic

/-!
# Choosing and opening the input device

A device is selected by its path, by the display server's number or by its name. A name must be
that of exactly one device.
-/

namespace KeyChord.Device

/-- A way of finding the input device. -/
inductive Selector where
  | path (path : String)
  | name (name : String)
  | xid (xid : UInt32)
  deriving DecidableEq, Repr

/-- The most specific way that is given: path, then number, then name. -/
def Selector.ofParts? (path : Option String) (xid : Option UInt32) (name : Option String) :
    Option Selector :=
  (path.map .path) <|> (xid.map .xid) <|> (name.map .name)

/-- How a selector is shown. -/
def Selector.shown : Selector → String
  | path p => s!"path {p}"
  | name n => "name " ++ Text.quoted n
  | xid x => s!"xid {x}"

/-- A device that can be chosen. -/
structure Info where
  path : String
  name : Option String
  deriving DecidableEq, Repr

/-- How a device is shown. -/
def Info.shown (d : Info) : String :=
  s!"{d.path}: " ++ d.name.getD "<unnamed>"

/-- The readable devices that report keys, sorted by path. -/
def list (fs : FileSystem) : List Info :=
  let found := fs.inputDevices.filter fun d => d.2.reportsKeys
  (found.map fun d => (⟨d.1, d.2.reportedName⟩ : Info)).mergeSort fun a b => a.path ≤ b.path

/-- The only device of some that share a name. -/
def pickSingle (name : String) (candidates : List Info) : Except DeviceError String :=
  match candidates with
  | [] => .error (.notFound name)
  | [only] => .ok only.path
  | many => .error (.ambiguous name many.length)

/-- Something done on the machine to a device. -/
abbrev DeviceAct := ExceptT DeviceError Act

/-- Uses the display server's program on the machine. -/
def onMachine {α : Type} (x : XInput α) : DeviceAct α :=
  Machine.onXInput x.run

/-- The path of the selected device. -/
def Selector.resolve (s : Selector) : DeviceAct String :=
  match s with
  | path p => pure p
  | xid x => onMachine (readNode x)
  | name n => do
    let m ← get
    pickSingle n ((list m.files).filter fun d => d.name = some n)

/-- An open device and the path it was opened by. -/
structure Source where
  path : String
  device : InputDevice
  deriving DecidableEq, Repr

/-- Opens the device at a path. -/
def openPath (path : String) : DeviceAct Source := do
  let m ← get
  match m.files.openInput path with
  | .ok device => pure ⟨path, device⟩
  | .error fault => throw (.notOpened path fault)

/-- Opens the selected device. -/
def Selector.openSource (s : Selector) : DeviceAct Source := do
  openPath (← s.resolve)

/-- The transitions in a batch of raw events, in order. -/
def transitions (batch : List Key.RawEvent) : List Key.Event :=
  batch.filterMap Key.RawEvent.event?

end KeyChord.Device
