import KeyChord.Daemon.Session
import KeyChord.Proofs.Dispatch.Invocation

/-!
# Actions cannot disturb recognition

An action may end well, fail, or break down, differently each time, and do what it likes to the
world. The dispatcher goes on as if nothing had happened: what it answers, and what is in its buffer
after any number of events, depends on its expressions and the events alone. All that is left of a
failure is a line in the log.

* `Action.run_notices`: actions neither read nor write what is on standard error.
* `dispatchAll_run`: the log of a session grows by the complaints of its run, one line for each.
* `run_isolated`: **two runs with different actions decide alike, invoke what fires and complain
  about what fails.**
-/

namespace KeyChord

open Key Pattern Daemon

/-! ## The log of a session -/

theorem Action.runShell_notices (user : String) (command : Template) (captures : List String)
    (m : Machine) (notices : List Notice) :
    (Action.runShell user command captures).run { m with notices } =
      (((Action.runShell user command captures).run m).1,
        { ((Action.runShell user command captures).run m).2 with notices }) := by
  unfold Action.runShell
  cases command.fill captures with
  | error e => rfl
  | ok script => rfl

theorem Action.runPipe_notices (path : String) (mode : FileSystem.WriteMode) (text : Template)
    (captures : List String) (m : Machine) (notices : List Notice) :
    (Action.runPipe path mode text captures).run { m with notices } =
      (((Action.runPipe path mode text captures).run m).1,
        { ((Action.runPipe path mode text captures).run m).2 with notices }) := by
  unfold Action.runPipe
  cases text.fill captures with
  | error e => rfl
  | ok filled =>
      simp only [StateT.run_bind, StateT.run_get, pure_bind]
      cases m.files.writeText path mode filled with
      | error fault => rfl
      | ok files => rfl

/-- An action does the same whatever is on standard error, and leaves that as it is. -/
theorem Action.run_notices (a : Action) (captures : List String) (m : Machine)
    (notices : List Notice) :
    (a.run captures).run { m with notices } =
      (((a.run captures).run m).1, { ((a.run captures).run m).2 with notices }) := by
  cases a with
  | dummy => rfl
  | shell user command => exact Action.runShell_notices user command captures m notices
  | pipe path mode text => exact Action.runPipe_notices path mode text captures m notices

namespace Dispatcher

variable {α α' σ σ' ε ε' : Type}

theorem perform_notices (d : Dispatcher Action) (v : Decision) (m : Machine)
    (notices : List Notice) :
    (d.perform Action.run Action.ActionError.message v).run { m with notices } =
      (((d.perform Action.run Action.ActionError.message v).run m).1,
        { ((d.perform Action.run Action.ActionError.message v).run m).2 with notices }) := by
  cases v with
  | fire i captures =>
      cases hb : d.bindings[i]? with
      | none =>
          simp only [perform, hb]
          rfl
      | some b =>
          simp only [perform, hb, StateT.run_bind, Action.run_notices]
          rfl
  | ignore => rfl
  | reset => rfl
  | retain => rfl
  | flush => rfl

/-- The notices of the complaints in the answers of a run. -/
def complaintNotices (answers : List (Outcome × Option String)) : List Notice :=
  (answers.filterMap Prod.snd).map fun text => .log ⟨.error, .dispatcher, text⟩

/-- An event leaves what the action of its binding leaves, and a line if there is a complaint. -/
theorem dispatchEvent_run {d : Dispatcher Action} {e : Event} {m after : Machine}
    {complaint : Option String}
    (h : (d.perform Action.run Action.ActionError.message (d.decision e)).run m =
      (complaint, after)) (notices : List Notice) :
    (dispatchEvent d e).run { m with notices } =
      (d.next e, { after with
        notices := notices ++ complaintNotices [((d.decision e).outcome, complaint)] }) := by
  have hperform := d.perform_notices (d.decision e) m notices
  rw [h] at hperform
  unfold dispatchEvent handle
  simp only [StateT.run_bind, hperform]
  cases complaint with
  | none => simp [complaintNotices]; rfl
  | some text => rfl

/-- **The log grows by the complaints of the run.** Handing events to a dispatcher does to the
machine what the run does, and adds an error line for each complaint, in order. -/
theorem dispatchAll_run (d : Dispatcher Action) (m : Machine) (events : List Event)
    (notices : List Notice) :
    let r := (d.run Action.run Action.ActionError.message (events.map .event)).run m
    (dispatchAll d events).run { m with notices } =
      (r.1.2, { r.2 with notices := notices ++ complaintNotices r.1.1 }) := by
  induction events generalizing d m notices with
  | nil =>
      show _ = (d, { m with notices := notices ++ [] })
      rw [List.append_nil]
      rfl
  | cons e events ih =>
      intro r
      rcases hfirst : (d.perform Action.run Action.ActionError.message (d.decision e)).run m with
        ⟨complaint, after⟩
      rcases hrest : ((d.next e).run Action.run Action.ActionError.message
        (events.map .event)).run after with ⟨⟨answers, d'⟩, last⟩
      have hr : r = ((((d.decision e).outcome, complaint) :: answers, d'), last) :=
        run_event_cons hfirst hrest
      have hevent := dispatchEvent_run hfirst notices
      have hlater := ih (d.next e) after
        (notices ++ complaintNotices [((d.decision e).outcome, complaint)])
      rw [hrest] at hlater
      have hsteps : (dispatchAll d (e :: events)).run { m with notices } =
          (dispatchAll ((dispatchEvent d e).run { m with notices }).1 events).run
            ((dispatchEvent d e).run { m with notices }).2 := rfl
      rw [hsteps, hevent, hlater, hr, List.append_assoc, complaintNotices, complaintNotices,
        ← List.map_append, ← List.filterMap_append]
      rfl

/-! ## Two runs -/

/-- **Actions cannot disturb recognition.** Two dispatchers that differ in nothing but their actions
give the same outcomes and have the same buffer after every event, whatever their actions do and
come to, each time anew. The action of a binding is invoked once each time the binding fires, on the
captures of the buffer at that moment, and never otherwise. There is one complaint for each
invocation that fails or breaks down, with the pattern of its binding, in order; and in a session
these complaints are the error lines that are added to the log. -/
theorem run_isolated {d : Dispatcher α} {d' : Dispatcher α'} (h : SameRules d d')
    (invoke : α → List String → StateM σ (Completion ε)) (message : ε → String)
    (invoke' : α' → List String → StateM σ' (Completion ε')) (message' : ε' → String)
    (s : σ) (s' : σ') (events : List Event) :
    let r := (d.run invoke message (events.map .event)).run s
    let r' := (d'.run invoke' message' (events.map .event)).run s'
    r.1.1.map Prod.fst = r'.1.1.map Prod.fst ∧
    (∀ front, front <+: events →
      ((d.run invoke message (front.map .event)).run s).1.2.buffer =
        ((d'.run invoke' message' (front.map .event)).run s').1.2.buffer) ∧
    (∃ invocations, Invokes invoke d s events invocations r.2 ∧
      r.1.1.filterMap (fun a => a.1.index?) = invocations.map (·.index) ∧
      r.1.1.filterMap Prod.snd = invocations.filterMap (·.complaint? message) ∧
      ∀ v ∈ invocations, (v.complaint? message = none ↔ v.completion = .done) ∧
        ∀ text, v.complaint? message = some text →
          ∃ reason, text = "Handler for '" ++ v.binding.expression.pattern ++ "'" ++ reason) ∧
    ∀ (daemon : Dispatcher Action) (m : Machine),
      let r := (daemon.run Action.run Action.ActionError.message (events.map .event)).run m
      (dispatchAll daemon events).run m =
        (r.1.2, { r.2 with notices := m.notices ++ complaintNotices r.1.1 }) := by
  intro r r'
  refine ⟨?_, fun front _ => ?_, ?_, fun daemon m =>
    daemon.dispatchAll_run m events m.notices⟩
  · rw [(d.run_spec invoke message (events.map .event) s).2.1,
      (d'.run_spec invoke' message' (events.map .event) s').2.1, h.decisions_eq events]
  · rw [(d.run_spec invoke message (front.map .event) s).1,
      (d'.run_spec invoke' message' (front.map .event) s').1]
    exact (h.afterAll front).buffer_eq
  · obtain ⟨invocations, hinvokes, hindices, hcomplaints⟩ :=
      exists_invokes invoke message d s events
    refine ⟨invocations, hinvokes, hindices, hcomplaints, fun v _ => ?_⟩
    exact ⟨complaint?_eq_none_iff, fun text htext => exists_append_of_complaint? htext⟩

/-- The actions of the second run count how often they are invoked: the first time they fail, and
after that they break down. -/
theorem run_isolated_second_fails :
    let t := Namespace.keyboard.translator
    let x : Expression := ⟨"a", .sequence [.button 30 .press], 28, t⟩
    let d : Dispatcher Unit := ⟨.reset 1 t, [⟨x, ()⟩], []⟩
    let d' : Dispatcher String := ⟨.reset 1 t, [⟨x, "no"⟩], []⟩
    let invoke (_ : Unit) (_ : List String) : StateM Unit (Completion Empty) := pure .done
    let invoke' (reason : String) (_ : List String) : StateM Nat (Completion String) := fun n =>
      (if n = 0 then .failed reason else .crashed none, n + 1)
    let events : List Event := [.press 30, .release 30, .press 30]
    SameRules d d' ∧
      ((d.run invoke Empty.elim (events.map .event)).run ()).1.1.map Prod.fst =
        ((d'.run invoke' id (events.map .event)).run 0).1.1.map Prod.fst ∧
      ((d.run invoke Empty.elim (events.map .event)).run ()).1.1 =
        [(.fired 0, none), (.retained, none), (.fired 0, none)] ∧
      ((d'.run invoke' id (events.map .event)).run 0).1.1 =
        [(.fired 0, some "Handler for 'a' failed: no"), (.retained, none),
          (.fired 0, some "Handler for 'a' panicked: Unknown panic payload")] ∧
      ((d'.run invoke' id (events.map .event)).run 0).2 = 2 := by
  intro t x d d' invoke invoke' events
  have hrules : SameRules d d' := ⟨rfl, rfl, rfl⟩
  have houtcomes := (run_isolated hrules invoke Empty.elim invoke' id () 0 events).1
  refine ⟨hrules, houtcomes, ?_, ?_, ?_⟩
  · decide +kernel
  · decide +kernel
  · decide +kernel

end Dispatcher

end KeyChord
