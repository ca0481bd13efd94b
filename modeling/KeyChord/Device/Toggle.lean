import KeyChord.Device.Error
import KeyChord.Device.Listing
import KeyChord.Machine.Tool

/-!
# Switching a device for the display server

While the program reads a device, the display server can be told not to use it. A toggle remembers
the state that was found first, so that it can be restored.
-/

namespace KeyChord.Device

/-- Something done with the display server's program, which may fail. -/
abbrev XInput := ExceptT DeviceError (StateM Tool)

/-- Runs the display server's program and answers what it prints. -/
def runXInput (args : Arguments) : XInput String := do
  match ← Tool.call args with
  | .notStarted fault => throw (.xinputNotStarted fault)
  | .ended output _ (.exited 0) => pure output
  | .ended _ complaint _ =>
    let said := String.ofList (Text.trim complaint.toList)
    throw (.xinput (.failed (" ".intercalate args) said))

/-- Lists the properties of a device. -/
def listProperties (xid : UInt32) : XInput (List Char) := do
  let output ← runXInput ["list-props", toString xid]
  pure output.toList

/-- Asks whether a device is enabled. -/
def readEnabled (xid : UInt32) : XInput Bool := do
  match enabled? (← listProperties xid) with
  | some state => pure state
  | none => throw (.xinput (.noState xid))

/-- Asks for the node of a device. -/
def readNode (xid : UInt32) : XInput String := do
  match node? (← listProperties xid) with
  | some node => pure (String.ofList node)
  | none => throw (.xinput (.noNode xid))

/-- The first of some devices that reads a node. Devices are asked one by one, only as far as
needed, and one that cannot be asked is passed by. -/
def firstReader (path : List Char) : List UInt32 → XInput (Option UInt32)
  | [] => pure none
  | xid :: rest => do
    let found ← tryCatch (do pure (readsNode path (← listProperties xid))) fun _ => pure false
    if found then pure (some xid) else firstReader path rest

/-- The device that reads a node. The same hardware is often listed several times under one name;
the node tells the devices apart. -/
def findReader (path : String) : XInput UInt32 := do
  let output ← runXInput ["list", "--id-only"]
  match ← firstReader path.toList (ids output.toList) with
  | some xid => pure xid
  | none => throw (.xinput (.noReader path))

/-- A device of the display server and the state it was found in. -/
structure Toggle where
  xid : UInt32
  initial : Bool
  deriving DecidableEq, Repr

namespace Toggle

/-- Remembers the state of a device. -/
def ofXid (xid : UInt32) : XInput Toggle := do
  let initial ← readEnabled xid
  pure ⟨xid, initial⟩

/-- Remembers the state of the device that reads a node. -/
def ofPath (path : String) : XInput Toggle := do
  ofXid (← findReader path)

/-- The state of the device now. -/
def state (t : Toggle) : XInput Bool :=
  readEnabled t.xid

/-- The arguments that switch a device. -/
def switchArguments (xid : UInt32) (enabled : Bool) : Arguments :=
  ["set-prop", toString xid, enabledProperty, if enabled then "1" else "0"]

/-- Switches the device. -/
def setState (t : Toggle) (enabled : Bool) : XInput Unit := do
  let _ ← runXInput (switchArguments t.xid enabled)
  pure ()

/-- Switches the device back to the state it was found in. -/
def restore (t : Toggle) : XInput Unit :=
  t.setState t.initial

end Toggle

end KeyChord.Device
