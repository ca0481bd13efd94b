import KeyChord.Daemon.Session

/-!
# Looking at a device

The user picks a device and sees the name of every key it reports, in the form that patterns use.
The device is taken from the display server meanwhile, if the display server knows it.
-/

namespace KeyChord.Daemon

open Device Key

/-- Why no device can be looked at. -/
inductive InspectError where
  | noDevices
  | notOpened (path : String) (e : DeviceError)
  | device (e : DeviceError)

/-- What went wrong, from the outside in. -/
def InspectError.chain : InspectError → List String
  | noDevices => ["No readable input devices, try running as root"]
  | notOpened path e => s!"Failed to open {path}" :: e.chain
  | device e => e.chain

/-- A text filled up with spaces to a width. -/
def padRight (width : Nat) (s : String) : String :=
  s ++ String.ofList (List.replicate (width - s.length) ' ')

/-- What a transition is called. -/
def transitionName : Transition → String
  | .press => "press"
  | .release => "release"
  | .repeated => "repeat"

/-- The name of a code for patterns: as a key if it is one, else as a button. -/
def codeName (code : Code) : String :=
  let key := (Namespace.keyboard.shortName? code).map fun name => s!"key <{name}>"
  let button := (Namespace.pointer.shortName? code).map fun name => s!"button <{name}>"
  (key <|> button).getD "unnamed"

/-- The line that shows an event. -/
def describeEvent (e : Event) : String :=
  padRight 8 (transitionName e.transition) ++ padRight 24 (codeName e.code) ++ s!"code {e.code}"

/-- The device whose place in the list a line gives. -/
def parseSelection (line : String) (devices : List Info) : Option Info :=
  (Text.unsigned? UInt64.size (Text.trim line.toList)).bind fun n => devices[n]?

/-- The list of devices as the user sees it, and the prompt after it. -/
def deviceMenu (devices : List Info) : String :=
  let rows := devices.zipIdx.map fun d => s!"    {d.2}: {d.1.shown}\n"
  "Available devices:\n" ++ String.join rows ++ "Select device:\n>> "

/-- The signals that end the look at a device in good order. -/
def inspectSignals : List Signal :=
  [.terminate, .interrupt]

/-- Takes a device from the display server, if it can be found there. -/
def takeDevice (path : String) : DeviceAct (Option Toggle) := do
  match ← ExceptT.lift (onMachine (Toggle.ofPath path)).run with
  | .error e =>
    Machine.log .warn .inspector s!"Device stays enabled for X: {e.message}"
    pure none
  | .ok toggle =>
    onMachine (toggle.setState false)
    pure (some toggle)

/-- Prints the events of a device until it is lost or a signal comes. The device is given back
before the loss is reported, and a failure to do so is reported instead. -/
def watch (source : Source) (toggle : Option Toggle) : DeviceAct Exit := do
  Machine.print "Now press some buttons, Ctrl+C to exit\n"
  let events := source.device.batches.flatMap transitions
  Machine.print (String.join (events.map fun e => describeEvent e ++ "\n"))
  match source.device.finish with
  | .signal signal => onSignal .inspector inspectSignals toggle signal
  | .lost fault =>
    if let some toggle := toggle then
      onMachine toggle.restore
    throw (.notRead fault)

/-- Lets the user pick a device and shows its events. -/
def inspect : ExceptT InspectError Act Exit := do
  let m ← get
  let devices := Device.list m.files
  if devices = [] then throw .noDevices
  Machine.print (deviceMenu devices)
  let line ← Machine.readLine
  match parseSelection line devices with
  | none =>
    Machine.print "No device selected\n"
    pure (.code 0)
  | some device =>
    let source ← ExceptT.adapt (.notOpened device.path) (openPath device.path)
    ExceptT.adapt .device do
      let toggle ← takeDevice device.path
      watch source toggle

end KeyChord.Daemon
