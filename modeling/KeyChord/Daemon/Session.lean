import KeyChord.CommandLine.Options
import KeyChord.Daemon.Load
import KeyChord.Device.Selector

/-!
# A session with an input device

A session loads the settings, builds the dispatcher, opens the device and, if the settings say so,
switches it for the display server; only then does it read events, until the device is lost or a
signal comes. Whatever ends the reading, the device is switched back first, unless the program
itself is broken.
-/

namespace KeyChord.Daemon

open KeyChord.Action CommandLine Config Device Key

/-- Why a session did not start or did not go on. -/
inductive SessionError where
  | configuration (e : ConfigError)
  | loading (e : LoadError)
  /-- The settings name no device. -/
  | noDevice
  | notOpened (selector : Selector) (e : DeviceError)
  | notSwitched (e : DeviceError)
  | stopped (e : DeviceError)

/-- What went wrong, from the outside in. -/
def SessionError.chain : SessionError → List String
  | configuration e => "Failed to load configuration" :: e.chain
  | loading e => e.chain
  | noDevice => ConfigError.noDevice.chain
  | notOpened selector e => s!"Failed to open input device by {selector.shown}" :: e.chain
  | notSwitched e => e.chain
  | stopped e => "Input device stopped" :: e.chain

/-- How the program ends. -/
inductive Exit where
  | code (n : Nat)
  /-- By a signal that it does not handle. -/
  | killed (s : Signal)
  deriving DecidableEq, Repr

/-- What is written when the program itself is broken. -/
def fatalMessage (s : Signal) : String :=
  let what := match s with
    | .segmentation => "SIGSEGV"
    | .abort => "SIGABRT"
    | _ => "fatal signal"
  s!"\nmacrod: {what}, the input device may still be disabled for X\n"

/-- The exit code after a fatal signal. -/
def fatalExit : Nat := 134

/-- A session that is ready to read events. -/
structure Session where
  dispatcher : Dispatcher Action
  source : Source
  /-- The device was switched for the display server. -/
  toggle : Option Toggle

/-- Something a session does, which may end it. -/
abbrev SessionAct := ExceptT SessionError Act

/-- Runs a step on the device, with `wrap` saying what its failure means to the session. -/
def onDevice {α : Type} (wrap : DeviceError → SessionError) (x : DeviceAct α) : SessionAct α :=
  ExceptT.adapt wrap x

/-- Remembers the state of the device for the display server: by the number that the settings
give, or else by the node that was opened, since names are not unique there. -/
def findToggle (device : Config.Device) (source : Source) : DeviceAct Toggle :=
  match device.xid with
  | some xid => onMachine (Toggle.ofXid xid)
  | none => onMachine (Toggle.ofPath source.path)

/-- Switches the device to the state that the settings want, if they want one. -/
def switchDevice (device : Config.Device) (source : Source) : DeviceAct (Option Toggle) :=
  match device.defaultState with
  | none => pure none
  | some state => do
    let toggle ← findToggle device source
    onMachine (toggle.setState state)
    pure (some toggle)

/-- Starts a session. Nothing outside the program is changed before the last step. -/
def Session.start (o : Options) : SessionAct Session := do
  let m ← get
  let loaded := Settings.load m.files (o.configFiles m.files)
  let settings ← ofExcept (loaded.mapError SessionError.configuration)
  let dispatcher ← ofExcept ((buildDispatcher settings o.scheme).mapError SessionError.loading)
  let device := settings.device
  match Selector.ofParts? device.path device.xid device.name with
  | none => throw .noDevice
  | some selector =>
    let source ← onDevice (.notOpened selector) selector.openSource
    let toggle ← onDevice .notSwitched (switchDevice device source)
    pure ⟨dispatcher, source, toggle⟩

/-- Hands one event to the dispatcher and logs its complaint, if it has one. -/
def dispatchEvent (d : Dispatcher Action) (e : Event) : Act (Dispatcher Action) := do
  let (_, complaint, d) ← d.handle Action.run ActionError.message e
  if let some text := complaint then
    Machine.log .error .dispatcher text
  pure d

/-- Hands a list of events to the dispatcher. -/
def dispatchAll (d : Dispatcher Action) (events : List Event) : Act (Dispatcher Action) :=
  events.foldlM dispatchEvent d

/-- Switches the device back. A failure is logged and nothing more. -/
def restore (part : Part) (toggle : Option Toggle) : Act Unit := do
  if let some toggle := toggle then
    if let .error e ← (onMachine toggle.restore).run then
      Machine.log .error part s!"Failed to restore device state: {e.message}"

/-- What a signal does to a program that handles those of `handled`. Any other one ends the program,
as it does one that handles none, with a report if it says that the program is broken. -/
def onSignal (part : Part) (handled : List Signal) (toggle : Option Toggle) (s : Signal) :
    Act Exit := do
  if s ∈ handled then
    restore part toggle
    pure (.code 0)
  else if s = .segmentation || s = .abort then
    Machine.complain (fatalMessage s)
    pure (.code fatalExit)
  else pure (.killed s)

/-- The signals that end a session in good order. -/
def sessionSignals : List Signal :=
  [.terminate, .interrupt, .hangup]

/-- Reads the device until it is lost or a signal comes. -/
def Session.listen (s : Session) : SessionAct Exit := do
  let events := s.source.device.batches.flatMap transitions
  let _ ← (dispatchAll s.dispatcher events : Act _)
  match s.source.device.finish with
  | .signal signal => onSignal .daemon sessionSignals s.toggle signal
  | .lost fault =>
    restore .daemon s.toggle
    throw (.stopped (.notRead fault))

/-- A session from start to end. -/
def Session.run (o : Options) : SessionAct Exit := do
  let session ← Session.start o
  session.listen

end KeyChord.Daemon
