import KeyChord.Daemon.Session

/-!
# The threads of a session

A session that is ready to switch its device runs in two threads from then on. The main thread
switches the device, starts the other one, reads events and, when the device is lost, switches it
back and ends the program. The other one, the watcher, registers the signals of `sessionSignals` one
by one, waits for one of them, switches the device back and ends the program.

Between any two steps of one thread the other one may take any number of its own, and a signal may
come at any time. One that has been registered is noted for the watcher. One that has not ends the
program at once, as it does a program that handles none. Signals that such a program survives are
left out, see `Signal`.
-/

namespace KeyChord.Daemon

open KeyChord.Action Device Key

/-- What the main thread is about to do. -/
inductive MainPhase where
  /-- Switch the device. -/
  | switching (d : Dispatcher Action)
  /-- Start the watcher. -/
  | starting (d : Dispatcher Action)
  /-- Read the next event. -/
  | reading (d : Dispatcher Action)
  /-- Switch the device back, for it is lost. -/
  | lost (fault : MachineFault)
  /-- End the program. -/
  | leaving (fault : MachineFault)

/-- What the watcher is about to do. -/
inductive WatcherPhase where
  /-- Nothing, for it has not been started. -/
  | absent
  /-- Register these signals, in order, and then wait for one. -/
  | registering (rest : List Signal)
  /-- Switch the device back, for a signal has come. -/
  | caught
  /-- End the program. -/
  | leaving
  deriving DecidableEq, Repr

/-- A session in its two threads. -/
structure Process where
  machine : Machine
  /-- The device that is switched and the state that the settings want, if they want one. -/
  switch : Option (Toggle × Bool)
  main : MainPhase
  watcher : WatcherPhase
  /-- The signals that no longer end the program at once, in the order of their registration. -/
  registered : List Signal
  /-- The signals that have come since, for the watcher. -/
  noted : List Signal
  /-- How the program ended, if it has. -/
  ended : Option (Except SessionError Exit)

/-- Something that happens to a process: a step of one of its threads, or a signal. -/
inductive Move where
  | switch
  | spawn
  | event (e : Event)
  | lose (fault : MachineFault)
  | restore
  | finish
  | register
  | take (s : Signal)
  | restoreCaught
  | exit
  | signal (s : Signal)
  deriving DecidableEq, Repr

namespace Process

/-- A session that is about to switch its device. -/
def ready (d : Dispatcher Action) (switch : Option (Toggle × Bool)) (m : Machine) : Process where
  machine := m
  switch := switch
  main := .switching d
  watcher := .absent
  registered := []
  noted := []
  ended := none

/-- The device that is to be switched back. -/
def toggle (p : Process) : Option Toggle :=
  p.switch.map Prod.fst

/-- The machine after the device has been switched back, or an attempt at it. -/
def restoredMachine (p : Process) : Machine :=
  ((Daemon.restore .daemon p.toggle).run p.machine).2

/-- What one step of a thread, or a signal, does to a process. The signals are those that end a
process unless they are registered. -/
inductive Step (p : Process) : Move → Process → Prop
  | unswitched {d : Dispatcher Action} (hmain : p.main = .switching d) (hswitch : p.switch = none) :
      Step p .switch { p with main := .starting d }
  | switched {d : Dispatcher Action} {toggle : Toggle} {state : Bool} {m : Machine}
      (hmain : p.main = .switching d) (hswitch : p.switch = some (toggle, state))
      (hset : (onMachine (toggle.setState state)).run.run p.machine = (.ok (), m)) :
      Step p .switch { p with machine := m, main := .starting d }
  | refused {d : Dispatcher Action} {toggle : Toggle} {state : Bool} {e : DeviceError} {m : Machine}
      (hmain : p.main = .switching d) (hswitch : p.switch = some (toggle, state))
      (hset : (onMachine (toggle.setState state)).run.run p.machine = (.error e, m)) :
      Step p .switch { p with machine := m, ended := some (.error (.notSwitched e)) }
  | spawned {d : Dispatcher Action} (hmain : p.main = .starting d) :
      Step p .spawn { p with main := .reading d, watcher := .registering sessionSignals }
  | read {d d' : Dispatcher Action} {e : Event} {m : Machine} (hmain : p.main = .reading d)
      (hevent : (dispatchEvent d e).run p.machine = (d', m)) :
      Step p (.event e) { p with machine := m, main := .reading d' }
  | lost {d : Dispatcher Action} {fault : MachineFault} (hmain : p.main = .reading d) :
      Step p (.lose fault) { p with main := .lost fault }
  | restored {fault : MachineFault} (hmain : p.main = .lost fault) :
      Step p .restore { p with machine := p.restoredMachine, main := .leaving fault }
  | finished {fault : MachineFault} (hmain : p.main = .leaving fault) :
      Step p .finish { p with ended := some (.error (.stopped (.notRead fault))) }
  | registered {s : Signal} {rest : List Signal} (hwatcher : p.watcher = .registering (s :: rest)) :
      Step p .register
        { p with watcher := .registering rest, registered := p.registered ++ [s] }
  | taken {s : Signal} (hwatcher : p.watcher = .registering []) (hs : s ∈ p.noted) :
      Step p (.take s) { p with watcher := .caught }
  | restoredCaught (hwatcher : p.watcher = .caught) :
      Step p .restoreCaught { p with machine := p.restoredMachine, watcher := .leaving }
  | exited (hwatcher : p.watcher = .leaving) :
      Step p .exit { p with ended := some (.ok (.code 0)) }
  | noted {s : Signal} (hs : s ∈ p.registered) :
      Step p (.signal s) { p with noted := p.noted ++ [s] }
  | killed {s : Signal} {exit : Exit} {m : Machine} (hs : s ∉ p.registered)
      (hsignal : (onSignal .daemon [] p.toggle s).run p.machine = (exit, m)) :
      Step p (.signal s) { p with machine := m, ended := some (.ok exit) }

/-- A process does one thing after another, as long as it has not ended. -/
inductive Run (p : Process) : List Move → Process → Prop
  | start : Run p [] p
  | next {moves : List Move} {move : Move} {q q' : Process} (hrun : Run p moves q)
      (halive : q.ended = none) (hstep : Step q move q') : Run p (moves ++ [move]) q'

end Process

end KeyChord.Daemon
