import KeyChord.Daemon.Session
import KeyChord.Proofs.Device.Toggle
import KeyChord.Proofs.Machine.Files

/-!
# A session leaves the device as it found it

A session switches the device for the display server only after everything else has succeeded, and
when the device is lost it switches it back to the state that was read before.

* `Machine.server`, `run_onMachine`: a step with the display server's program, on the machine.
* `Inquired`: one state of the machine is reached from another by asking that program alone.
* `inquired_openSource`, `inquired_findToggle`: opening a device and reading its state only ask.
* `xinput_dispatchAll`: actions do not use that program.
* `Course`: the ways in which a session goes, by the step that fails.
* `Session.run_follows_course`: **these are all the ways, and what is switched on each of them.**

A command that a shell runs may use the display server's program too. The machine does not follow
what it does there: all calls here are those of the session itself.
-/

namespace KeyChord

/-- The display server's program, in the environment of this one. -/
def Machine.server (m : Machine) : Tool :=
  { m.xinput with environment := m.environment }

/-- The machine after a call of the display server's program. -/
def Machine.called (m : Machine) (args : Arguments) : Machine :=
  { m with xinput := m.server.called args }

/-- What comes of a call of the display server's program. -/
def Machine.replyTo (m : Machine) (args : Arguments) : Reply :=
  m.server.replyTo args

namespace Daemon

open KeyChord.Action CommandLine Config Device Key

variable {α : Type} {o : Options} {m m' m'' : Machine}

/-! ## Asking on the machine -/

theorem run_onMachine (x : XInput α) (m : Machine) :
    (onMachine x).run.run m =
      ((x.run.run m.server).1, { m with xinput := (x.run.run m.server).2 }) := rfl

/-- One state of the machine is reached from another by calls of the display server's program that
switch no device. -/
structure Inquired (queries : List (Arguments × Reply)) (m m' : Machine) : Prop where
  rest_eq : m' = { m with xinput := m'.xinput }
  past_eq : m'.xinput.past = m.xinput.past ++ queries
  noSwitch : ∀ q ∈ queries, isSwitch q.1 = false

theorem Inquired.refl (m : Machine) : Inquired [] m m :=
  ⟨rfl, (List.append_nil _).symm, nofun⟩

theorem Inquired.trans {queries queries' : List (Arguments × Reply)} (h : Inquired queries m m')
    (h' : Inquired queries' m' m'') : Inquired (queries ++ queries') m m'' where
  rest_eq := by rw [h'.rest_eq, h.rest_eq]
  past_eq := by rw [h'.past_eq, h.past_eq, List.append_assoc]
  noSwitch q hq := (List.mem_append.1 hq).elim (h.noSwitch q) (h'.noSwitch q)

theorem Inquired.files_eq {queries : List (Arguments × Reply)} (h : Inquired queries m m') :
    m'.files = m.files := by rw [h.rest_eq]

theorem inquired_onMachine {x : XInput α} (hx : Asks x) (m : Machine) :
    ∃ queries, Inquired queries m ((onMachine x).run.run m).2 := by
  obtain ⟨queries, hafter, hqueries⟩ := hx m.server
  refine ⟨queries, rfl, ?_, hqueries⟩
  rw [run_onMachine, hafter]
  rfl

theorem inquired_resolve (selector : Selector) (m : Machine) :
    ∃ queries, Inquired queries m (selector.resolve.run.run m).2 := by
  cases selector with
  | path path => exact ⟨[], .refl m⟩
  | name name => exact ⟨[], .refl m⟩
  | xid xid => exact inquired_onMachine (asks_readNode xid) m

theorem run_openPath (path : String) (m : Machine) :
    (openPath path).run.run m =
      (match m.files.openInput path with
        | .ok device => .ok ⟨path, device⟩
        | .error fault => .error (.notOpened path fault), m) := by
  unfold openPath
  rw [run_bind_of_ok (show (get : DeviceAct Machine).run.run m = (.ok m, m) from rfl)]
  cases m.files.openInput path <;> rfl

/-- Opening a device switches none, and what is opened is what stands at the path. -/
theorem inquired_openSource (selector : Selector) (m : Machine) :
    ∃ queries, Inquired queries m (selector.openSource.run.run m).2 ∧
      ∀ source, (selector.openSource.run.run m).1 = .ok source →
        m.files.openInput source.path = .ok source.device := by
  obtain ⟨queries, hqueries⟩ := inquired_resolve selector m
  refine ⟨queries, ?_⟩
  unfold Selector.openSource
  rcases hresolve : selector.resolve.run.run m with ⟨e | path, resolved⟩
  · rw [hresolve] at hqueries
    rw [run_bind_of_error hresolve]
    exact ⟨hqueries, nofun⟩
  · rw [hresolve] at hqueries
    have hfiles : resolved.files = m.files := hqueries.files_eq
    rw [run_bind_of_ok hresolve, run_openPath, hfiles]
    refine ⟨hqueries, fun source hsource => ?_⟩
    cases hopen : m.files.openInput path with
    | error fault =>
        rw [hopen] at hsource
        cases hsource
    | ok device =>
        rw [hopen] at hsource
        cases hsource
        exact hopen

/-- A toggle is made without switching anything, from the last exchange before it. -/
theorem inquired_findToggle (device : Config.Device) (source : Source) (m : Machine) :
    ∃ queries, Inquired queries m ((findToggle device source).run.run m).2 ∧
      ∀ toggle, ((findToggle device source).run.run m).1 = .ok toggle →
        ∃ earlier exchange, queries = earlier ++ [exchange] ∧ toggle.ReadFrom exchange := by
  have hmake {x : XInput Toggle} (hx : Asks x)
      (hread : ∀ {toggle t'}, x.run.run m.server = (.ok toggle, t') → ∃ earlier exchange,
        toggle.ReadFrom exchange ∧ t'.past = m.server.past ++ earlier ++ [exchange]) :
      ∃ queries, Inquired queries m ((onMachine x).run.run m).2 ∧
        ∀ toggle, ((onMachine x).run.run m).1 = .ok toggle →
          ∃ earlier exchange, queries = earlier ++ [exchange] ∧ toggle.ReadFrom exchange := by
    obtain ⟨queries, hqueries⟩ := inquired_onMachine hx m
    refine ⟨queries, hqueries, fun toggle htoggle => ?_⟩
    obtain ⟨earlier, exchange, hexchange, hpast⟩ := hread (Prod.ext htoggle rfl)
    have hsame : m.xinput.past ++ queries = m.xinput.past ++ (earlier ++ [exchange]) := by
      rw [← hqueries.past_eq, ← List.append_assoc]
      exact hpast
    exact ⟨earlier, exchange, List.append_cancel_left hsame, hexchange⟩
  unfold findToggle
  cases device.xid with
  | none => exact hmake (asks_ofPath source.path) readFrom_of_ofPath
  | some xid =>
      refine hmake (asks_ofXid xid) fun h => ?_
      obtain ⟨-, exchange, hexchange, hpast⟩ := readFrom_of_ofXid h
      exact ⟨[], exchange, hexchange, by rw [hpast, List.append_nil]⟩

/-! ## Switching on the machine -/

/-- Switching a device is one call. -/
theorem run_setState_onMachine (toggle : Toggle) (state : Bool) (m : Machine) :
    (onMachine (toggle.setState state)).run.run m =
      ((printed (Toggle.switchArguments toggle.xid state)
        (m.replyTo (Toggle.switchArguments toggle.xid state))).map fun _ => (),
        m.called (Toggle.switchArguments toggle.xid state)) := by
  rw [run_onMachine, run_setState]
  rfl

/-- Switching a device back is one call too, whatever comes of it. -/
theorem xinput_restore (part : Part) (toggle : Toggle) (m : Machine) :
    ((restore part (some toggle)).run m).2.xinput =
      (m.called (Toggle.switchArguments toggle.xid toggle.initial)).xinput := by
  have hrun := run_setState_onMachine toggle toggle.initial m
  unfold restore Toggle.restore
  simp only [StateT.run_bind]
  cases hsaid : printed (Toggle.switchArguments toggle.xid toggle.initial)
    (m.replyTo (Toggle.switchArguments toggle.xid toggle.initial)) with
  | error e =>
      rw [hsaid] at hrun
      rw [hrun]
      rfl
  | ok output =>
      rw [hsaid] at hrun
      rw [hrun]
      rfl

theorem past_called (m : Machine) (args : Arguments) :
    (m.called args).xinput.past = m.xinput.past ++ [(args, m.replyTo args)] := rfl

/-! ## Actions -/

/-- An action does not use the display server's program. -/
theorem xinput_run (a : Action) (captures : List String) (m : Machine) :
    ((a.run captures).run m).2.xinput = m.xinput := by
  cases a with
  | dummy => rfl
  | shell user command =>
      change ((runShell user command captures).run m).2.xinput = m.xinput
      unfold runShell
      cases command.fill captures <;> rfl
  | pipe path mode text =>
      change ((runPipe path mode text captures).run m).2.xinput = m.xinput
      unfold runPipe
      cases text.fill captures with
      | error e => rfl
      | ok filled =>
          simp only [StateT.run_bind, StateT.run_get, pure_bind]
          cases m.files.writeText path mode filled <;> rfl

theorem xinput_perform (d : Dispatcher Action) (v : Decision) (m : Machine) :
    ((d.perform Action.run ActionError.message v).run m).2.xinput = m.xinput := by
  cases v with
  | fire i captures =>
      cases hb : d.bindings[i]? with
      | none =>
          simp only [Dispatcher.perform, hb]
          rfl
      | some b =>
          simp only [Dispatcher.perform, hb]
          exact xinput_run b.action captures m
  | ignore => rfl
  | reset => rfl
  | retain => rfl
  | flush => rfl

theorem xinput_dispatchEvent (d : Dispatcher Action) (e : Event) (m : Machine) :
    ((dispatchEvent d e).run m).2.xinput = m.xinput := by
  have hperform := xinput_perform d (d.decision e) m
  unfold dispatchEvent Dispatcher.handle
  rcases hrun : (d.perform Action.run ActionError.message (d.decision e)).run m with
    ⟨complaint, after⟩
  rw [hrun] at hperform
  simp only [StateT.run_bind, hrun]
  cases complaint <;> exact hperform

/-- Whatever the bindings do, the device stays as it was switched. -/
theorem xinput_dispatchAll (d : Dispatcher Action) (events : List Event) (m : Machine) :
    ((dispatchAll d events).run m).2.xinput = m.xinput := by
  induction events generalizing d m with
  | nil => rfl
  | cons e events ih =>
      have hrest := ih ((dispatchEvent d e).run m).1 ((dispatchEvent d e).run m).2
      rw [xinput_dispatchEvent] at hrest
      exact hrest

/-! ## The ways of a session -/

/-- The way in which a session finds its device, if the settings give one. -/
def chosen? (settings : Settings) : Option Selector :=
  Selector.ofParts? settings.device.path settings.device.xid settings.device.name

/-- A session that has come as far as an open device, with the machine as it is then. -/
structure Opens (o : Options) (m : Machine) (settings : Settings) (d : Dispatcher Action)
    (source : Source) (opened : Machine) : Prop where
  loaded : Settings.load m.files (o.configFiles m.files) = .ok settings
  built : buildDispatcher settings o.scheme = .ok d
  openedBy : ∃ selector, chosen? settings = some selector ∧
    selector.openSource.run.run m = (.ok source, opened)

/-- The machine when all events of a device have been handed to a dispatcher. -/
def handled (d : Dispatcher Action) (source : Source) (m : Machine) : Machine :=
  ((dispatchAll d (source.device.batches.flatMap transitions)).run m).2

/-- The ways in which a session on a device that gets lost can go, each with the calls that only
ask, the calls that switch, the error in the end and the machine then. -/
inductive Course (o : Options) (m : Machine) : (queries switches : List (Arguments × Reply)) →
    SessionError → Machine → Prop
  /-- A file of settings cannot be loaded. -/
  | configuration {e : ConfigError}
      (hload : Settings.load m.files (o.configFiles m.files) = .error e) :
      Course o m [] [] (.configuration e) m
  /-- The dispatcher cannot be built. -/
  | loading {settings : Settings} {e : LoadError}
      (hload : Settings.load m.files (o.configFiles m.files) = .ok settings)
      (hbuild : buildDispatcher settings o.scheme = .error e) :
      Course o m [] [] (.loading e) m
  /-- The settings name no device. -/
  | noDevice {settings : Settings} {d : Dispatcher Action}
      (hload : Settings.load m.files (o.configFiles m.files) = .ok settings)
      (hbuild : buildDispatcher settings o.scheme = .ok d) (hchoice : chosen? settings = none) :
      Course o m [] [] .noDevice m
  /-- The device cannot be found or opened. -/
  | notOpened {settings : Settings} {d : Dispatcher Action} {selector : Selector} {e : DeviceError}
      {after : Machine} {queries : List (Arguments × Reply)}
      (hload : Settings.load m.files (o.configFiles m.files) = .ok settings)
      (hbuild : buildDispatcher settings o.scheme = .ok d)
      (hchoice : chosen? settings = some selector)
      (hopen : selector.openSource.run.run m = (.error e, after)) :
      Course o m queries [] (.notOpened selector e) after
  /-- The device is not to be switched. -/
  | unswitched {settings : Settings} {d : Dispatcher Action} {source : Source} {opened : Machine}
      {fault : MachineFault} {queries : List (Arguments × Reply)}
      (hopens : Opens o m settings d source opened) (hstate : settings.device.defaultState = none)
      (hlost : source.device.finish = .lost fault) :
      Course o m queries [] (.stopped (.notRead fault)) (handled d source opened)
  /-- The display server does not know the device, or not its state. -/
  | notFound {settings : Settings} {d : Dispatcher Action} {source : Source}
      {opened after : Machine} {state : Bool} {e : DeviceError} {queries : List (Arguments × Reply)}
      (hopens : Opens o m settings d source opened)
      (hstate : settings.device.defaultState = some state)
      (hfind : (findToggle settings.device source).run.run opened = (.error e, after)) :
      Course o m queries [] (.notSwitched e) after
  /-- The device cannot be switched. -/
  | refused {settings : Settings} {d : Dispatcher Action} {source : Source}
      {opened found : Machine} {state : Bool} {toggle : Toggle} {e : DeviceError}
      {queries : List (Arguments × Reply)} (hopens : Opens o m settings d source opened)
      (hstate : settings.device.defaultState = some state)
      (hfind : (findToggle settings.device source).run.run opened = (.ok toggle, found))
      (hrefused : printed (Toggle.switchArguments toggle.xid state)
        (found.replyTo (Toggle.switchArguments toggle.xid state)) = .error e) :
      Course o m queries
        [(Toggle.switchArguments toggle.xid state,
          found.replyTo (Toggle.switchArguments toggle.xid state))]
        (.notSwitched e) (found.called (Toggle.switchArguments toggle.xid state))
  /-- The device is switched and, when all its events have been handled and it is lost, switched
  back to the state that was read last before. -/
  | restored {settings : Settings} {d : Dispatcher Action} {source : Source}
      {opened found after : Machine} {state : Bool} {toggle : Toggle} {output : String}
      {fault : MachineFault} {earlier : List (Arguments × Reply)} {exchange : Arguments × Reply}
      (hopens : Opens o m settings d source opened)
      (hstate : settings.device.defaultState = some state)
      (hfind : (findToggle settings.device source).run.run opened = (.ok toggle, found))
      (hread : toggle.ReadFrom exchange)
      (hset : printed (Toggle.switchArguments toggle.xid state)
        (found.replyTo (Toggle.switchArguments toggle.xid state)) = .ok output)
      (hafter : after = handled d source
        (found.called (Toggle.switchArguments toggle.xid state)))
      (hlost : source.device.finish = .lost fault) :
      Course o m (earlier ++ [exchange])
        [(Toggle.switchArguments toggle.xid state,
          found.replyTo (Toggle.switchArguments toggle.xid state)),
         (Toggle.switchArguments toggle.xid toggle.initial,
          after.replyTo (Toggle.switchArguments toggle.xid toggle.initial))]
        (.stopped (.notRead fault)) ((restore .daemon (some toggle)).run after).2

/-! ## One step after another -/

theorem run_ofExcept_bind {ε σ α β : Type} (x : Except ε α) (f : α → ExceptT ε (StateM σ) β)
    (s : σ) :
    (ofExcept x >>= f).run.run s =
      match x with
      | .ok a => (f a).run.run s
      | .error e => (.error e, s) := by
  cases x <;> rfl

theorem run_onDevice (wrap : DeviceError → SessionError) (x : DeviceAct α) (m : Machine) :
    (onDevice wrap x).run.run m = ((x.run.run m).1.mapError wrap, (x.run.run m).2) :=
  run_adapt wrap x m

/-- The start of a session, with the machine handed from step to step. -/
theorem run_start (o : Options) (m : Machine) :
    (Session.start o).run.run m =
      match Settings.load m.files (o.configFiles m.files) with
      | .error e => (.error (.configuration e), m)
      | .ok settings =>
        match buildDispatcher settings o.scheme with
        | .error e => (.error (.loading e), m)
        | .ok d =>
          match chosen? settings with
          | none => (.error .noDevice, m)
          | some selector =>
            match selector.openSource.run.run m with
            | (.error e, after) => (.error (.notOpened selector e), after)
            | (.ok source, opened) =>
              match (switchDevice settings.device source).run.run opened with
              | (.error e, after) => (.error (.notSwitched e), after)
              | (.ok toggle, after) => (.ok ⟨d, source, toggle⟩, after) := by
  unfold Session.start chosen?
  rw [run_bind_of_ok (show (get : SessionAct Machine).run.run m = (.ok m, m) from rfl)]
  dsimp only
  rw [run_ofExcept_bind]
  cases Settings.load m.files (o.configFiles m.files) with
  | error e => rfl
  | ok settings =>
      dsimp only [Except.mapError]
      rw [run_ofExcept_bind]
      cases buildDispatcher settings o.scheme with
      | error e => rfl
      | ok d =>
          dsimp only [Except.mapError]
          cases Selector.ofParts? settings.device.path settings.device.xid settings.device.name with
          | none => rfl
          | some selector =>
              dsimp only
              rw [run_bind, run_onDevice]
              rcases selector.openSource.run.run m with ⟨e | source, opened⟩
              · rfl
              · dsimp only [Except.mapError]
                rw [run_bind, run_onDevice]
                rcases (switchDevice settings.device source).run.run opened with ⟨_ | _, _⟩ <;> rfl

/-- Switching a device, with the machine handed from step to step. -/
theorem run_switchDevice {device : Config.Device} {state : Bool}
    (hstate : device.defaultState = some state) (source : Source) (m : Machine) :
    (switchDevice device source).run.run m =
      match (findToggle device source).run.run m with
      | (.error e, after) => (.error e, after)
      | (.ok toggle, found) =>
        ((printed (Toggle.switchArguments toggle.xid state)
          (found.replyTo (Toggle.switchArguments toggle.xid state))).map fun _ => some toggle,
          found.called (Toggle.switchArguments toggle.xid state)) := by
  unfold switchDevice
  rw [hstate]
  dsimp only
  rw [run_bind]
  rcases (findToggle device source).run.run m with ⟨e | toggle, found⟩
  · rfl
  · dsimp only
    rw [run_bind, run_setState_onMachine]
    cases printed (Toggle.switchArguments toggle.xid state)
      (found.replyTo (Toggle.switchArguments toggle.xid state)) <;> rfl

/-- Reading a device that gets lost. -/
theorem run_listen (session : Session) {fault : MachineFault}
    (hlost : session.source.device.finish = .lost fault) (m : Machine) :
    session.listen.run.run m = (.error (.stopped (.notRead fault)),
      ((restore .daemon session.toggle).run
        (handled session.dispatcher session.source m)).2) := by
  unfold Session.listen
  rw [hlost]
  rfl

/-! ## What is switched -/

/-- A run that goes in one of these ways, with all calls of the display server's program that it
makes. -/
def Follows (o : Options) (m : Machine) (r : Except SessionError Exit × Machine) : Prop :=
  ∃ queries switches e, Course o m queries switches e r.2 ∧ r.1 = .error e ∧
    r.2.xinput.past = m.xinput.past ++ queries ++ switches ∧ ∀ q ∈ queries, isSwitch q.1 = false

/-- A run that switches nothing makes the calls that lead to where it ends. -/
theorem follows_of_inquired {queries : List (Arguments × Reply)} {e : SessionError}
    {r : Except SessionError Exit × Machine} (hcourse : Course o m queries [] e r.2)
    (hresult : r.1 = .error e) (hqueries : Inquired queries m m')
    (hsame : r.2.xinput = m'.xinput) : Follows o m r := by
  refine ⟨queries, [], e, hcourse, hresult, ?_, hqueries.noSwitch⟩
  rw [hsame, hqueries.past_eq, List.append_nil]

theorem Opens.inquired {settings : Settings} {d : Dispatcher Action} {source : Source}
    {opened : Machine} (h : Opens o m settings d source opened) :
    ∃ queries, Inquired queries m opened ∧
      m.files.openInput source.path = .ok source.device := by
  obtain ⟨-, -, selector, -, hopen⟩ := h
  obtain ⟨queries, hqueries, hsource⟩ := inquired_openSource selector m
  rw [hopen] at hqueries hsource
  exact ⟨queries, hqueries, hsource source rfl⟩

/-- The rest of a session whose device is open. -/
theorem Opens.run_eq {settings : Settings} {d : Dispatcher Action} {source : Source}
    {opened : Machine} (h : Opens o m settings d source opened) :
    (Session.run o).run.run m =
      match (switchDevice settings.device source).run.run opened with
      | (.error e, after) => (.error (.notSwitched e), after)
      | (.ok toggle, after) => (Session.listen ⟨d, source, toggle⟩).run.run after := by
  obtain ⟨hload, hbuild, selector, hchoice, hopen⟩ := h
  unfold Session.run
  rw [run_bind, run_start, hload]
  dsimp only
  rw [hbuild]
  dsimp only
  rw [hchoice]
  dsimp only
  rw [hopen]
  dsimp only
  rcases (switchDevice settings.device source).run.run opened with ⟨_ | _, _⟩ <;> rfl

theorem handled_xinput (d : Dispatcher Action) (source : Source) (m : Machine) :
    (handled d source m).xinput = m.xinput :=
  xinput_dispatchAll d _ m

/-- A session whose device is open and gets lost later. -/
theorem Opens.follows {settings : Settings} {d : Dispatcher Action} {source : Source}
    {opened : Machine} (h : Opens o m settings d source opened) {fault : MachineFault}
    (hlost : source.device.finish = .lost fault) : Follows o m ((Session.run o).run.run m) := by
  obtain ⟨queries, hqueries, -⟩ := h.inquired
  rw [h.run_eq]
  cases hstate : settings.device.defaultState with
  | none =>
      have hswitch : (switchDevice settings.device source).run.run opened = (.ok none, opened) := by
        unfold switchDevice
        rw [hstate]
        rfl
      rw [hswitch]
      dsimp only
      rw [run_listen _ hlost]
      exact follows_of_inquired (.unswitched h hstate hlost) rfl hqueries
        (handled_xinput d source opened)
  | some state =>
      rw [run_switchDevice hstate]
      obtain ⟨later, hlater, hread⟩ := inquired_findToggle settings.device source opened
      rcases hfind : (findToggle settings.device source).run.run opened with ⟨e | toggle, found⟩
      · rw [hfind] at hlater
        exact follows_of_inquired (.notFound h hstate hfind) rfl (hqueries.trans hlater) rfl
      · rw [hfind] at hlater hread
        obtain ⟨earlier, exchange, rfl, hexchange⟩ := hread toggle rfl
        have hasked := hqueries.trans hlater
        dsimp only
        cases hset : printed (Toggle.switchArguments toggle.xid state)
          (found.replyTo (Toggle.switchArguments toggle.xid state)) with
        | error e =>
            refine ⟨_, _, _, .refused h hstate hfind hset, rfl, ?_, hasked.noSwitch⟩
            rw [← hasked.past_eq]
            rfl
        | ok output =>
            dsimp only [Except.map]
            rw [run_listen _ hlost]
            rw [← List.append_assoc] at hasked
            refine ⟨_, _, _, .restored h hstate hfind hexchange hset rfl hlost, rfl, ?_,
              hasked.noSwitch⟩
            rw [xinput_restore, past_called, handled_xinput, past_called]
            have hfound : found.xinput.past = m.xinput.past ++ (queries ++ earlier ++ [exchange]) :=
              hasked.past_eq
            rw [hfound]
            simp only [List.append_assoc, List.cons_append, List.nil_append]

/-- **A session leaves the device as it found it.** On a machine where devices get lost and no
signal comes, a session fails in one of the ways of `Course`, with the error that belongs to it. It
switches nothing as long as any earlier step can fail, and nothing at all if the settings do not say
so. If the device refuses to be switched, the one attempt is all; otherwise the session first
switches it and, when all events have been handled and the device is lost, switches it back to the
state that it last asked for before. What comes of that makes no difference to the error. The other
calls of the display server's program only ask, and all of them come first. -/
theorem Session.run_follows_course (o : Options) {m : Machine}
    (hquiet : ∀ path device, m.files.openInput path = .ok device →
      ∃ fault, device.finish = .lost fault) :
    let r := (Session.run o).run.run m
    ∃ queries switches e, Course o m queries switches e r.2 ∧ r.1 = .error e ∧
      r.2.xinput.past = m.xinput.past ++ queries ++ switches ∧
      ∀ q ∈ queries, isSwitch q.1 = false := by
  show Follows o m ((Session.run o).run.run m)
  have hrun : (Session.run o).run.run m = _ := run_bind (Session.start o) Session.listen m
  rw [run_start] at hrun
  cases hload : Settings.load m.files (o.configFiles m.files) with
  | error e =>
      rw [hload] at hrun
      rw [hrun]
      exact follows_of_inquired (.configuration hload) rfl (.refl m) rfl
  | ok settings =>
      rw [hload] at hrun
      dsimp only at hrun
      cases hbuild : buildDispatcher settings o.scheme with
      | error e =>
          rw [hbuild] at hrun
          rw [hrun]
          exact follows_of_inquired (.loading hload hbuild) rfl (.refl m) rfl
      | ok d =>
          rw [hbuild] at hrun
          dsimp only at hrun
          cases hchoice : chosen? settings with
          | none =>
              rw [hchoice] at hrun
              rw [hrun]
              exact follows_of_inquired (.noDevice hload hbuild hchoice) rfl (.refl m) rfl
          | some selector =>
              rw [hchoice] at hrun
              dsimp only at hrun
              rcases hopen : selector.openSource.run.run m with ⟨e | source, opened⟩
              · rw [hopen] at hrun
                obtain ⟨queries, hqueries, -⟩ := inquired_openSource selector m
                rw [hopen] at hqueries
                rw [hrun]
                exact follows_of_inquired (.notOpened hload hbuild hchoice hopen) rfl hqueries rfl
              · have hopens : Opens o m settings d source opened :=
                  ⟨hload, hbuild, selector, hchoice, hopen⟩
                obtain ⟨-, -, hdevice⟩ := hopens.inquired
                obtain ⟨fault, hlost⟩ := hquiet source.path source.device hdevice
                exact hopens.follows hlost

/-- The device is disabled while it is read, and the display server refuses to enable it again. The
session asks which device reads the node and for its state, and then switches twice. -/
theorem Session.run_follows_course_refused_restore :
    let files : FileSystem := ⟨[(["conf"], .regular
        ("\x7b\"device\": \x7b\"path\": \"/dev/input/event3\", \"default_state\": 0\x7d, " ++
          "\"expressions\": \x7b\"default\": \x7b\"dummy\": \x7b\"a\": \"\"\x7d\x7d\x7d\x7d").toUTF8),
      (["dev"], .directory), (["input", "dev"], .directory),
      (["event3", "input", "dev"], .input ⟨some "Pad", true, none, [], .lost .noDevice⟩)], []⟩
    let listing := "Device 'Pad':\n\tDevice Enabled (142):\t1\n" ++
      "\tDevice Node (266):\t\"/dev/input/event3\"\n"
    let xinput := Tool.scripted
      [("list --id-only", [.ended "8\n" "" (.exited 0)]),
        ("list-props 8", [.ended listing "" (.exited 0)]),
        ("set-prop 8 Device Enabled 0", [.ended "" "" (.exited 0)])]
      fun _ => .ended "" "no" (.exited 1)
    let m : Machine := ⟨files, xinput, .missing, [], "", "", []⟩
    let o : Options := ⟨false, some "/conf", "/none", "default", false⟩
    let r := (Session.run o).run.run m
    (∀ path device, m.files.openInput path = .ok device → ∃ fault, device.finish = .lost fault) ∧
      (∃ queries switches e, Course o m queries switches e r.2 ∧ r.1 = .error e ∧
        r.2.xinput.past = m.xinput.past ++ queries ++ switches ∧
        ∀ q ∈ queries, isSwitch q.1 = false) ∧
      r.2.xinput.past.map Prod.fst = [["list", "--id-only"], ["list-props", "8"],
        ["list-props", "8"], ["set-prop", "8", "Device Enabled", "0"],
        ["set-prop", "8", "Device Enabled", "1"]] := by
  intro files listing xinput m o
  have hquiet : ∀ path device, m.files.openInput path = .ok device →
      ∃ fault, device.finish = .lost fault := by
    intro path device hopen
    obtain ⟨place, hmem⟩ := FileSystem.exists_mem_entries_of_openInput hopen
    simp only [m, files, List.mem_cons, Prod.mk.injEq, reduceCtorEq, and_false, false_or,
      List.not_mem_nil, or_false] at hmem
    obtain ⟨-, hdevice⟩ := hmem
    cases hdevice
    exact ⟨.noDevice, rfl⟩
  refine ⟨hquiet, ?_, by decide +kernel⟩
  exact Session.run_follows_course o hquiet

end Daemon

end KeyChord
