import KeyChord.Daemon.Threads
import KeyChord.Proofs.Daemon.Switching

/-!
# Signals and the device

A session that gets one of its signals switches the device back before it ends. That is the
watcher's work, and the watcher is started only when the device has been switched, and registers the
signals one by one. A signal that comes before its turn ends the program at once, and one that is
none of `sessionSignals` does so at any time, since it never gets a turn.

* `Step.calls_eq`, `Run.calls_eq`: the calls of a run, read off its moves.
* `Known`, `Run.known`: what the phases of the threads say about the moves so far.
* `Session.exists_run_listen`: what a session does from the start of the watcher on is such a run.
* `Run.ended_unrestored_iff`: **the runs that end without an attempt to switch the device back** are
  those that end by a signal that is not registered by then.
* `Run.killed_before_registration`: there are such runs.
-/

namespace KeyChord.Daemon

open KeyChord.Action Device Key

/-- Whether a move is an attempt to switch the device back. -/
def Move.restores : Move → Bool
  | restore => true
  | restoreCaught => true
  | _ => false

/-- The call of the display server's program that a move makes. -/
def Move.call? (switch : Option (Toggle × Bool)) (move : Move) : Option Arguments :=
  switch.bind fun (toggle, state) =>
    match move with
    | .switch => some (Toggle.switchArguments toggle.xid state)
    | .restore => some (Toggle.switchArguments toggle.xid toggle.initial)
    | .restoreCaught => some (Toggle.switchArguments toggle.xid toggle.initial)
    | _ => none

/-- The calls of the display server's program on a machine. -/
def calls (m : Machine) : List Arguments :=
  m.xinput.past.map Prod.fst

theorem calls_eq_of_xinput_eq {m m' : Machine} (h : m'.xinput = m.xinput) :
    calls m' = calls m := by
  unfold calls
  rw [h]

theorem calls_called (m : Machine) (args : Arguments) :
    calls (m.called args) = calls m ++ [args] := by
  unfold calls
  rw [past_called, List.map_append]
  rfl

namespace Process

variable {p p' q q' : Process} {move : Move} {moves : List Move}

/-! ## One move -/

theorem calls_of_run_setState {toggle : Toggle} {state : Bool} {m m' : Machine}
    {result : Except DeviceError Unit}
    (h : (onMachine (toggle.setState state)).run.run m = (result, m')) :
    calls m' = calls m ++ [Toggle.switchArguments toggle.xid state] := by
  rw [run_setState_onMachine] at h
  obtain ⟨-, rfl⟩ := Prod.mk.inj h
  exact calls_called m _

theorem calls_restoredMachine (p : Process) :
    calls p.restoredMachine = calls p.machine ++ (Move.restore.call? p.switch).toList := by
  unfold restoredMachine toggle
  cases hswitch : p.switch with
  | none => exact (List.append_nil _).symm
  | some switch =>
      rw [Option.map_some, calls_eq_of_xinput_eq (xinput_restore .daemon switch.1 p.machine),
        calls_called]
      rfl

/-- A signal that is not handled does what it does where none is. -/
theorem onSignal_of_not_mem {part : Part} {handled : List Signal} {s : Signal} (hs : s ∉ handled)
    (toggle toggle' : Option Toggle) :
    onSignal part handled toggle s = onSignal part [] toggle' s := by
  unfold onSignal
  rw [if_neg hs, if_neg List.not_mem_nil]

/-- It leaves the device as it is. -/
theorem xinput_onSignal (part : Part) (toggle : Option Toggle) (s : Signal) (m : Machine) :
    ((onSignal part [] toggle s).run m).2.xinput = m.xinput := by
  unfold onSignal
  rw [if_neg List.not_mem_nil]
  split <;> rfl

theorem Step.switch_eq (h : Step p move p') : p'.switch = p.switch := by
  cases h <;> rfl

/-- Each move makes its own call, if any. -/
theorem Step.calls_eq (h : Step p move p') :
    calls p'.machine = calls p.machine ++ (move.call? p.switch).toList := by
  cases h with
  | unswitched _ hswitch =>
      rw [hswitch]
      exact (List.append_nil _).symm
  | switched _ hswitch hset =>
      rw [hswitch]
      exact calls_of_run_setState hset
  | refused _ hswitch hset =>
      rw [hswitch]
      exact calls_of_run_setState hset
  | restored _ => exact calls_restoredMachine p
  | restoredCaught _ => exact calls_restoredMachine p
  | @read d d' e m _ hevent =>
      have hsame := xinput_dispatchEvent d e p.machine
      rw [hevent] at hsame
      rw [calls_eq_of_xinput_eq hsame]
      cases p.switch <;> exact (List.append_nil _).symm
  | @killed s exit m _ hsignal =>
      have hsame := xinput_onSignal .daemon p.toggle s p.machine
      rw [hsignal] at hsame
      rw [calls_eq_of_xinput_eq hsame]
      cases p.switch <;> exact (List.append_nil _).symm
  | spawned | lost | finished | registered | taken | exited | noted =>
      cases p.switch <;> exact (List.append_nil _).symm

/-- **The calls of a run** are those of its moves, in order. -/
theorem Run.calls_eq (h : Run p moves q) :
    q.switch = p.switch ∧
      calls q.machine = calls p.machine ++ moves.filterMap (Move.call? p.switch) := by
  induction h with
  | start => exact ⟨rfl, (List.append_nil _).symm⟩
  | @next moves move q q' _ _ hstep ih =>
      obtain ⟨hswitch, hcalls⟩ := ih
      refine ⟨hstep.switch_eq.trans hswitch, ?_⟩
      rw [hstep.calls_eq, hcalls, hswitch, List.filterMap_append, List.append_assoc]
      rfl

/-! ## What the phases say -/

/-- The signals that a watcher has yet to register. -/
def left : WatcherPhase → List Signal
  | .absent => sessionSignals
  | .registering rest => rest
  | .caught => []
  | .leaving => []

/-- Whether the main thread has yet to start the watcher. -/
def isAlone : MainPhase → Bool
  | .switching _ => true
  | .starting _ => true
  | _ => false

/-- What is known of a process after some moves: which signals are registered, and that a thread is
about to end the program only after an attempt to switch the device back. -/
structure Known (moves : List Move) (q : Process) : Prop where
  alone : isAlone q.main = true → q.watcher = .absent
  registers : q.registered ++ left q.watcher = sessionSignals
  count_eq : q.registered.length = moves.count .register
  main_leaving : ∀ fault, q.main = .leaving fault → .restore ∈ moves
  watcher_leaving : q.watcher = .leaving → .restoreCaught ∈ moves

theorem known_ready (d : Dispatcher Action) (switch : Option (Toggle × Bool)) (m : Machine) :
    Known [] (ready d switch m) :=
  ⟨fun _ => rfl, rfl, rfl, nofun, nofun⟩

/-- A move that registers nothing, as far as the watcher is concerned. -/
theorem Known.keep (h : Known moves q) (hmove : move ≠ .register)
    (hregistered : q'.registered = q.registered) (hleft : left q'.watcher = left q.watcher)
    (halone : isAlone q'.main = true → q'.watcher = .absent)
    (hmain : ∀ fault, q'.main = .leaving fault → q.main = .leaving fault ∨ move = .restore)
    (hwatcher : q'.watcher = .leaving → q.watcher = .leaving ∨ move = .restoreCaught) :
    Known (moves ++ [move]) q' where
  alone := halone
  registers := by rw [hregistered, hleft, h.registers]
  count_eq := by
    rw [hregistered, h.count_eq, List.count_append, List.count_singleton, beq_false_of_ne hmove]
    rfl
  main_leaving fault hphase := by
    rcases hmain fault hphase with hphase | rfl
    · exact List.mem_append_left _ (h.main_leaving fault hphase)
    · exact List.mem_append_right _ (List.mem_singleton_self _)
  watcher_leaving hphase := by
    rcases hwatcher hphase with hphase | rfl
    · exact List.mem_append_left _ (h.watcher_leaving hphase)
    · exact List.mem_append_right _ (List.mem_singleton_self _)

/-- The main thread has started the watcher if that one is anywhere. -/
theorem Known.isAlone_eq_false (h : Known moves q) (hwatcher : q.watcher ≠ .absent) :
    isAlone q.main = false := by
  cases hmain : isAlone q.main with
  | false => rfl
  | true => exact absurd (h.alone hmain) hwatcher

theorem Known.step (h : Known moves q) (hstep : Step q move q') : Known (moves ++ [move]) q' := by
  cases hstep with
  | unswitched hmain _ =>
      exact h.keep nofun rfl rfl (fun _ => h.alone (by rw [hmain]; rfl)) nofun .inl
  | switched hmain _ _ =>
      exact h.keep nofun rfl rfl (fun _ => h.alone (by rw [hmain]; rfl)) nofun .inl
  | refused _ _ _ => exact h.keep nofun rfl rfl h.alone (fun _ => .inl) .inl
  | spawned hmain =>
      have habsent : q.watcher = .absent := h.alone (by rw [hmain]; rfl)
      exact h.keep nofun rfl (by rw [habsent]; rfl) nofun nofun nofun
  | read _ _ => exact h.keep nofun rfl rfl nofun nofun .inl
  | lost _ => exact h.keep nofun rfl rfl nofun nofun .inl
  | restored _ => exact h.keep nofun rfl rfl nofun (fun _ _ => .inr rfl) .inl
  | finished _ => exact h.keep nofun rfl rfl h.alone (fun _ => .inl) .inl
  | @registered s rest hwatcher =>
      have hmain := h.isAlone_eq_false (by rw [hwatcher]; nofun)
      refine ⟨fun halone => ?_, ?_, ?_, fun fault hphase => ?_, nofun⟩
      · rw [hmain] at halone
        cases halone
      · rw [← h.registers, hwatcher, List.append_assoc]
        rfl
      · rw [List.length_append, h.count_eq, List.count_append]
        rfl
      · exact List.mem_append_left _ (h.main_leaving fault hphase)
  | taken hwatcher _ =>
      have hmain := h.isAlone_eq_false (by rw [hwatcher]; nofun)
      exact h.keep nofun rfl (by rw [hwatcher]; rfl)
        (fun halone => absurd (hmain.symm.trans halone) nofun) (fun _ => .inl) nofun
  | restoredCaught hwatcher =>
      have hmain := h.isAlone_eq_false (by rw [hwatcher]; nofun)
      exact h.keep nofun rfl (by rw [hwatcher]; rfl)
        (fun halone => absurd (hmain.symm.trans halone) nofun) (fun _ => .inl) fun _ => .inr rfl
  | exited _ => exact h.keep nofun rfl rfl h.alone (fun _ => .inl) .inl
  | noted _ => exact h.keep nofun rfl rfl h.alone (fun _ => .inl) .inl
  | killed _ _ => exact h.keep nofun rfl rfl h.alone (fun _ => .inl) .inl

theorem Run.known {d : Dispatcher Action} {switch : Option (Toggle × Bool)} {m : Machine}
    (h : Run (ready d switch m) moves q) : Known moves q := by
  induction h with
  | start => exact known_ready d switch m
  | next _ _ hstep ih => exact ih.step hstep

/-- The signals are registered in order, one by each move that registers. -/
theorem Known.registered_eq (h : Known moves q) :
    q.registered = sessionSignals.take (moves.count .register) := by
  rw [← h.count_eq, ← h.registers, List.take_left]

/-! ## From the watcher's start to the end -/

theorem Run.trans {moves' : List Move} (h : Run p moves q) (h' : Run q moves' q') :
    Run p (moves ++ moves') q' := by
  induction h' with
  | start => rwa [List.append_nil]
  | next _ halive hstep ih =>
      rw [← List.append_assoc]
      exact .next ih halive hstep

theorem Run.single (halive : p.ended = none) (hstep : Step p move q) : Run p [move] q :=
  .next .start halive hstep

/-- The main thread reads events one after another. -/
theorem exists_run_events {d : Dispatcher Action} (halive : p.ended = none)
    (hmain : p.main = .reading d) (events : List Event) :
    Run p (events.map .event)
      { p with
        machine := ((dispatchAll d events).run p.machine).2
        main := .reading ((dispatchAll d events).run p.machine).1 } := by
  induction events generalizing p d with
  | nil =>
      have hsame : { p with main := .reading d } = p := by
        rw [← hmain]
      show Run p [] { p with main := .reading d }
      rw [hsame]
      exact .start
  | cons e events ih =>
      have hfirst := Run.single halive (.read hmain (e := e) rfl)
      exact hfirst.trans (ih halive rfl)

/-- The watcher is started and registers all its signals. -/
theorem run_registering {d : Dispatcher Action} (switch : Option (Toggle × Bool)) (m : Machine) :
    Run { ready d switch m with main := .starting d } [.spawn, .register, .register, .register]
      ⟨m, switch, .reading d, .registering [], sessionSignals, [], none⟩ := by
  have hspawn := Run.single (p := { ready d switch m with main := .starting d }) rfl (.spawned rfl)
  have hfirst := hspawn.next rfl (.registered rfl)
  have hsecond := hfirst.next rfl (.registered rfl)
  exact hsecond.next rfl (.registered rfl)

/-- The device is lost. -/
theorem run_lost {d : Dispatcher Action} (halive : p.ended = none) (hmain : p.main = .reading d)
    (fault : MachineFault) :
    Run p [.lose fault, .restore, .finish]
      { p with
        machine := p.restoredMachine
        main := .leaving fault
        ended := some (.error (.stopped (.notRead fault))) } := by
  have hlost : Run p [.lose fault] { p with main := .lost fault } :=
    .single halive (.lost hmain)
  have hrestored := hlost.next halive (.restored rfl)
  exact hrestored.next halive (.finished rfl)

/-- The watcher gets a signal that it waits for. -/
theorem run_caught {s : Signal} (halive : p.ended = none) (hwatcher : p.watcher = .registering [])
    (hs : s ∈ p.registered) :
    Run p [.signal s, .take s, .restoreCaught, .exit]
      { p with
        machine := p.restoredMachine
        watcher := .leaving
        noted := p.noted ++ [s]
        ended := some (.ok (.code 0)) } := by
  have hnoted := Run.single halive (.noted hs)
  have htaken := hnoted.next halive
    (.taken hwatcher (List.mem_append_right p.noted (List.mem_singleton_self s)))
  have hrestored := htaken.next halive (.restoredCaught rfl)
  exact hrestored.next halive (.exited rfl)

/-- What happens in the end of a session, when all its signals are registered. -/
def lastMoves : FeedEnd → List Move
  | .lost fault => [.lose fault, .restore, .finish]
  | .signal s =>
    if s ∈ sessionSignals then [.signal s, .take s, .restoreCaught, .exit] else [.signal s]

/-- The moves of a session whose watcher is ready before the first event comes. -/
def movesOf (session : Session) : List Move :=
  [.spawn, .register, .register, .register] ++
    ((session.source.device.batches.flatMap transitions).map .event ++
      lastMoves session.source.device.finish)

end Process

/-- **A session that is read to its end is one of these runs**: that in which the watcher has
registered all signals before anything else happens. -/
theorem Session.exists_run_listen (session : Session) (state : Bool) (m : Machine) :
    ∃ q, Process.Run
        { Process.ready session.dispatcher (session.toggle.map fun toggle => (toggle, state)) m with
          main := .starting session.dispatcher }
        (Process.movesOf session) q ∧
      q.ended = some (session.listen.run.run m).1 ∧ q.machine = (session.listen.run.run m).2 := by
  have htoggle :
      (session.toggle.map fun toggle => (toggle, state)).map Prod.fst = session.toggle := by
    cases session.toggle <;> rfl
  have hready := Process.run_registering (d := session.dispatcher)
    (session.toggle.map fun toggle => (toggle, state)) m
  have hevents := hready.trans (Process.exists_run_events rfl rfl
    (session.source.device.batches.flatMap transitions))
  unfold Process.movesOf Session.listen
  rw [← List.append_assoc]
  cases session.source.device.finish with
  | lost fault =>
      refine ⟨_, hevents.trans (Process.run_lost rfl rfl fault), rfl, ?_⟩
      unfold Process.restoredMachine Process.toggle
      dsimp only
      rw [htoggle]
      rfl
  | signal s =>
      unfold Process.lastMoves
      dsimp only
      by_cases hs : s ∈ sessionSignals
      · unfold onSignal
        rw [if_pos hs, if_pos hs]
        refine ⟨_, hevents.trans (Process.run_caught rfl rfl hs), rfl, ?_⟩
        unfold Process.restoredMachine Process.toggle
        dsimp only
        rw [htoggle]
        rfl
      · rw [if_neg hs, Process.onSignal_of_not_mem hs session.toggle
          ((session.toggle.map fun toggle => (toggle, state)).map Prod.fst)]
        exact ⟨_, hevents.trans (Process.Run.single rfl (.killed hs rfl)), rfl, rfl⟩

namespace Process

/-! ## Runs that leave the device switched -/

/-- Whether the main thread has switched the device, where it is to be switched. -/
def hasSwitched : MainPhase → Bool
  | .switching _ => false
  | _ => true

/-- A move that ends a process whose device has been switched: an attempt to switch it back came
before, or it is a signal that has not been registered. -/
theorem Step.ended (h : Step q move q') (hknown : Known moves q) (halive : q.ended = none)
    (hswitched : hasSwitched q'.main = true) (hended : q'.ended ≠ none) :
    (∃ earlier ∈ moves, earlier.restores = true) ∨ ∃ s, move = .signal s ∧ s ∉ q.registered := by
  cases h with
  | refused hmain _ _ =>
      rw [hmain] at hswitched
      cases hswitched
  | finished hmain => exact .inl ⟨.restore, hknown.main_leaving _ hmain, rfl⟩
  | exited hwatcher => exact .inl ⟨.restoreCaught, hknown.watcher_leaving hwatcher, rfl⟩
  | killed hs _ => exact .inr ⟨_, rfl, hs⟩
  | unswitched | switched | spawned | read | lost | restored | registered | taken
    | restoredCaught | noted => exact absurd halive hended

/-- A signal that has not been registered ends the process. -/
theorem Step.ended_of_signal {s : Signal} (h : Step q (.signal s) q') (hs : s ∉ q.registered) :
    q'.ended ≠ none := by
  cases h with
  | noted hregistered => exact absurd hregistered hs
  | killed _ _ => nofun

/-- **When a session leaves its device switched.** Take any run of the two threads, with signals at
any moment, in which the main thread has switched the device. The calls of the display server's
program are those of its moves. The run ends without any attempt to switch the device back exactly
if its last move is a signal that has not been registered by then, with no attempt before; what is
registered by then can be told from the number of moves that register. So once all of
`sessionSignals` are registered, none of them can end the session without such an attempt. Before
its registration each of them can, and a signal outside of them, which is never registered, can at
any time. -/
theorem Run.ended_unrestored_iff {d : Dispatcher Action} {switch : Option (Toggle × Bool)}
    {m : Machine} (hrun : Run (ready d switch m) moves q) (hswitched : hasSwitched q.main = true) :
    calls q.machine = calls m ++ moves.filterMap (Move.call? switch) ∧
      ((q.ended ≠ none ∧ ∀ move ∈ moves, move.restores = false) ↔
        ∃ before s, moves = before ++ [.signal s] ∧
          s ∉ sessionSignals.take (before.count .register) ∧
          ∀ move ∈ before, move.restores = false) := by
  refine ⟨hrun.calls_eq.2, ?_⟩
  cases hrun with
  | start =>
      constructor
      · rintro ⟨hended, -⟩
        exact absurd rfl hended
      · rintro ⟨before, s, hmoves, -⟩
        exact absurd hmoves.symm (List.append_ne_nil_of_right_ne_nil before nofun)
  | @next before move q₀ _ hbefore halive hstep =>
      have hknown := hbefore.known
      constructor
      · rintro ⟨hended, hnone⟩
        have hnone' : ∀ earlier ∈ before, earlier.restores = false :=
          fun earlier hearlier => hnone earlier (List.mem_append_left _ hearlier)
        rcases hstep.ended hknown halive hswitched hended with
          ⟨earlier, hmem, hrestores⟩ | ⟨s, rfl, hs⟩
        · rw [hnone' earlier hmem] at hrestores
          cases hrestores
        · rw [hknown.registered_eq] at hs
          exact ⟨before, s, rfl, hs, hnone'⟩
      · rintro ⟨before', s, hmoves, hs, hnone⟩
        obtain ⟨rfl, hmove⟩ := List.append_inj' hmoves rfl
        obtain rfl := List.singleton_inj.1 hmove
        rw [← hknown.registered_eq] at hs
        refine ⟨hstep.ended_of_signal hs, fun earlier hearlier => ?_⟩
        rcases List.mem_append.1 hearlier with hearlier | hearlier
        · exact hnone earlier hearlier
        · rw [List.mem_singleton.1 hearlier]
          rfl

/-- The device is disabled and the first signal is registered. That one comes and is noted for the
watcher; the next one comes before its turn, and the device stays disabled. -/
theorem Run.ended_unrestored_iff_two_signals :
    let m : Machine := ⟨⟨[], []⟩, .constant (.exited 0), .missing, [], "", "", []⟩
    let d : Dispatcher Action := .new (.reset 28 Namespace.keyboard.translator)
    let moves : List Move :=
      [.switch, .spawn, .register, .signal .terminate, .signal .interrupt]
    ∃ q, Run (ready d (some (⟨8, true⟩, false)) m) moves q ∧ hasSwitched q.main = true ∧
      calls q.machine = [["set-prop", "8", "Device Enabled", "0"]] ∧
      q.ended ≠ none ∧ ∀ move ∈ moves, move.restores = false := by
  intro m d moves
  have hswitch := Run.single (p := ready d (some (⟨8, true⟩, false)) m) rfl (.switched rfl rfl rfl)
  have hspawn := hswitch.next rfl (.spawned rfl)
  have hregister := hspawn.next rfl (.registered rfl)
  have hnoted := hregister.next rfl (.noted (List.mem_singleton_self Signal.terminate))
  have hkilled := hnoted.next rfl (.killed (s := .interrupt) (by decide) rfl)
  obtain ⟨hcalls, hended⟩ := ended_unrestored_iff hkilled rfl
  refine ⟨_, hkilled, rfl, hcalls, hended.2 ?_⟩
  exact ⟨[.switch, .spawn, .register, .signal .terminate], .interrupt, rfl, by decide, by decide⟩

/-- **A signal can come between the switching of the device and its own registration**, and then the
device stays as it was switched: here it is disabled, and the watcher has just been started. -/
theorem Run.killed_before_registration :
    let m : Machine := ⟨⟨[], []⟩, .constant (.exited 0), .missing, [], "", "", []⟩
    let d : Dispatcher Action := .new (.reset 28 Namespace.keyboard.translator)
    ∀ s ∈ sessionSignals, ∃ q,
      Run (ready d (some (⟨8, true⟩, false)) m) [.switch, .spawn, .signal s] q ∧
        hasSwitched q.main = true ∧ q.ended = some (.ok (.killed s)) ∧
        calls q.machine = [["set-prop", "8", "Device Enabled", "0"]] := by
  intro m d s hs
  have hswitch := Run.single (p := ready d (some (⟨8, true⟩, false)) m) rfl (.switched rfl rfl rfl)
  have hspawn := hswitch.next rfl (.spawned rfl)
  have hkilled := hspawn.next rfl (.killed (s := s) List.not_mem_nil rfl)
  refine ⟨_, hkilled, rfl, ?_⟩
  simp only [sessionSignals, List.mem_cons, List.not_mem_nil, or_false] at hs
  rcases hs with rfl | rfl | rfl <;> exact ⟨rfl, rfl⟩

end Process

end KeyChord.Daemon
