import KeyChord.Machine.Fault
import KeyChord.Text.Quoted

/-!
# What can go wrong with a device

Some errors name the fault of the machine that caused them; such a cause is one more link of the
error's chain.
-/

namespace KeyChord.Device

/-- What the display server's program could not do. -/
inductive XInputFault where
  /-- It ended badly. -/
  | failed (args complaint : String)
  /-- No device of the display server reads the node. -/
  | noReader (path : String)
  /-- A device has no node. -/
  | noNode (xid : UInt32)
  /-- A device does not say whether it is enabled. -/
  | noState (xid : UInt32)
  deriving DecidableEq, Repr

/-- The wording of a fault of the display server's program. -/
def XInputFault.message : XInputFault → String
  | failed args complaint => s!"xinput {args} failed: {complaint}"
  | noReader path => s!"no X input device reads {path}"
  | noNode xid => s!"device {xid} has no device node"
  | noState xid => s!"device {xid} has no \"Device Enabled\" property"

/-- Why a device cannot be found, opened, read or switched. -/
inductive DeviceError where
  | notFound (name : String)
  | ambiguous (name : String) (count : Nat)
  | notOpened (path : String) (fault : MachineFault)
  | notRead (fault : MachineFault)
  | xinput (fault : XInputFault)
  | xinputNotStarted (fault : MachineFault)
  deriving DecidableEq, Repr

/-- The message of a device error. -/
def DeviceError.message : DeviceError → String
  | notFound name => "No input device named " ++ Text.quoted name
  | ambiguous name count =>
    s!"{count} input devices are named " ++ Text.quoted name ++ ", select one by path or xid"
  | notOpened path fault => s!"Failed to open {path}: {fault.message}"
  | notRead fault => s!"Failed to read events: {fault.message}"
  | xinput fault => s!"xinput error: {fault.message}"
  | xinputNotStarted fault => s!"Failed to run xinput: {fault.message}"

/-- The message of an error and that of its cause. -/
def DeviceError.chain (e : DeviceError) : List String :=
  e.message ::
    match e with
    | notOpened _ fault => [fault.message]
    | notRead fault => [fault.message]
    | xinputNotStarted fault => [fault.message]
    | _ => []

end KeyChord.Device
