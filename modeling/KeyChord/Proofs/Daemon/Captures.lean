import KeyChord.Proofs.Action.Template
import KeyChord.Proofs.Daemon.Load
import KeyChord.Proofs.Dispatch.Invocation
import KeyChord.Proofs.Pattern.Language

/-!
# Captures are counted at load time

A binding fires on as many captures as its pattern has stars, whatever was typed. So whether the
command of a binding can be filled is known when the scheme has been loaded: either it always can,
or each firing reports the same slot, and nothing is started or written.

* `Realizes.length_captures`: the number of captures that a loaded binding makes.
* `Action.run_of_fill_eq_error`: an action whose command cannot be filled does nothing.
* `built_invocations_filled`: **every firing of a built dispatcher has a capture for each star, and
  so its command can always be filled or never.**
-/

namespace KeyChord

open KeyChord.Action Key Pattern

/-- The template that an action fills. -/
def Action.template? : Action → Option Template
  | dummy => none
  | shell _ command => some command
  | pipe _ _ text => some text

theorem Action.Recipe.template?_fill {recipe : Recipe} {template template' : Template}
    (h : (recipe.fill template).template? = some template') : template' = template := by
  cases recipe with
  | dummy => cases h
  | shell user => exact (Option.some.inj h).symm
  | pipe path mode => exact (Option.some.inj h).symm

/-- An action whose template cannot be filled reports this and leaves the machine as it is. -/
theorem Action.run_of_fill_eq_error {a : Action} {template : Template} {captures : List String}
    {e : TemplateError} (ha : a.template? = some template)
    (h : template.fill captures = .error e) (m : Machine) :
    (a.run captures).run m = (.failed (.ofTemplate e), m) := by
  cases a with
  | dummy => cases ha
  | shell user command =>
      cases ha
      show (Action.runShell user template captures).run m = _
      unfold Action.runShell
      rw [h]
      rfl
  | pipe path mode text =>
      cases ha
      show (Action.runPipe path mode template captures).run m = _
      unfold Action.runPipe
      rw [h]
      rfl

namespace Daemon

open Config

section

variable {t : Translator} {terminator : Code} {spec : BindingSpec} {b : Binding Action}

/-- The template of a binding is that of its command. -/
theorem Realizes.ofText_command (h : Realizes t terminator spec b) {template : Template}
    (htemplate : b.action.template? = some template) :
    Template.ofText spec.command = .ok template := by
  obtain ⟨recipe, template', -, hcommand, haction⟩ := h.action
  rw [haction] at htemplate
  rw [Recipe.template?_fill htemplate, hcommand]

/-- **A binding makes a capture for each star of its pattern**, of every buffer that it accepts. -/
theorem Realizes.length_captures (h : Realizes t terminator spec b) {buffer : List Event}
    {captures : List String}
    (haccept : b.expression.process buffer = ⟨.accept, captures⟩) :
    captures.length = spec.pattern.toList.count '*' := by
  obtain ⟨literals, hne, hx, hstars⟩ := Expression.exists_row_of_ofText h.expression
  have hmatches : b.expression.MatchesAs terminator literals :=
    Expression.matchesAs_of_ofText h.expression (by rw [hx])
  have hstate : (b.expression.process buffer).state = .accept := by rw [haccept]
  obtain ⟨-, runs, hspelt⟩ := (hmatches.accept_iff buffer).1 hstate
  have hcaptures : captures = (b.expression.matcher.evaluate buffer).captures.map
      b.expression.render := congrArg Verdict.captures haccept.symm
  rw [hcaptures, hmatches.captures_eq hstate hspelt, List.length_map, List.length_map,
    hspelt.length_runs, hstars]

/-- What a binding was made of stands at the same place. -/
theorem exists_realizes_of_getElem? {specs : List BindingSpec} {bindings : List (Binding Action)}
    (h : List.Forall₂ (Realizes t terminator) specs bindings) {i : Nat}
    (hb : bindings[i]? = some b) :
    ∃ spec, specs[i]? = some spec ∧ Realizes t terminator spec b := by
  obtain ⟨hi, rfl⟩ := List.getElem?_eq_some_iff.1 hb
  have hi' : i < specs.length := by
    rw [h.length_eq]
    exact hi
  exact ⟨specs[i], List.getElem?_eq_getElem hi', h.get hi' hi⟩

end

/-- **Whether a command can be filled is fixed at load time.** Whenever a binding of a built
dispatcher fires, its action is run on as many captures as the pattern has stars. So the template of
its command cannot be filled exactly if it has a slot whose index is not below that number: at every
firing or at none, whatever was typed. Then all firings report the same shortage, and the machine is
left as it was: nothing has been started, and no file has been touched. -/
theorem built_invocations_filled {s : Settings} {scheme : String} {d : Dispatcher Action}
    (h : buildDispatcher s scheme = .ok d) (m : Machine) (events : List Event) :
    let r := (d.run Action.run ActionError.message (events.map .event)).run m
    ∃ specs invocations, s.bindings scheme = .ok specs ∧
      Dispatcher.Invokes Action.run d m events invocations r.2 ∧
      r.1.1.filterMap (fun a => a.1.index?) = invocations.map (·.index) ∧
      ∀ v ∈ invocations, ∃ spec, specs[v.index]? = some spec ∧
        d.bindings[v.index]? = some v.binding ∧
        v.captures.length = spec.pattern.toList.count '*' ∧
        ∀ template, v.binding.action.template? = some template →
          Template.ofText spec.command = .ok template ∧
          ((∃ e, template.fill v.captures = .error e) ↔
            ∃ index ∈ template.slots, spec.pattern.toList.count '*' ≤ index) ∧
          ∀ e, template.fill v.captures = .error e →
            template.shortage? (spec.pattern.toList.count '*') = some e ∧
            v.completion = .failed (.ofTemplate e) ∧ v.after = v.before := by
  intro r
  obtain ⟨_, terminator, specs, -, -, hspecs, hbindings, -, -⟩ := buildDispatcher_eq_ok_iff.1 h
  obtain ⟨invocations, hinvokes, hindices, -⟩ :=
    Dispatcher.exists_invokes Action.run ActionError.message d m events
  refine ⟨specs, invocations, hspecs, hinvokes, hindices, fun v hv => ?_⟩
  obtain ⟨hb, ⟨buffer, haccept⟩, hcall⟩ := hinvokes.spec_of_mem hv
  obtain ⟨spec, hspec, hrealizes⟩ := exists_realizes_of_getElem? hbindings hb
  have hlength := hrealizes.length_captures haccept
  refine ⟨spec, hspec, hb, hlength, fun template htemplate => ?_⟩
  refine ⟨hrealizes.ofText_command htemplate, ?_, fun e he => ?_⟩
  · simp only [Template.fill_eq_error_iff, hlength, Template.exists_shortage_iff]
  · have hrun := Action.run_of_fill_eq_error htemplate he v.before
    rw [hcall] at hrun
    obtain ⟨hcompletion, hafter⟩ := Prod.mk.inj hrun
    rw [Template.fill_eq_error_iff, hlength] at he
    exact ⟨he, hcompletion, hafter⟩

/-- Both commands ask for one capture more than there are stars, so nothing is run and nothing is
written. -/
theorem built_invocations_filled_one_short :
    let text := "\x7b\"expressions\": \x7b\"default\": \x7b" ++
      "\"shell user=bob\": \x7b\"a*\": \"echo \x7b\x7d\x7b\x7d\"\x7d, " ++
      "\"pipe path=log\": \x7b\"b\": \"\x7b0\x7d\"\x7d\x7d\x7d\x7d"
    let files : FileSystem :=
      ⟨[(["tmp"], .directory), (["log", "tmp"], .regular "old".toUTF8)], ["tmp"]⟩
    let m : Machine := ⟨files, .missing, .constant (.exited 0), [], "", "", []⟩
    let events : List Event := [30, 35, 28, 48].map .press
    ∃ s d specs invocations, Settings.ofText text = .ok s ∧
      buildDispatcher s "default" = .ok d ∧ s.bindings "default" = .ok specs ∧
      Dispatcher.Invokes Action.run d m events invocations
        ((d.run Action.run ActionError.message (events.map .event)).run m).2 ∧
      invocations.map (·.index) = [0, 1] ∧
      (∀ v ∈ invocations, ∃ spec, specs[v.index]? = some spec ∧
        v.captures.length = spec.pattern.toList.count '*') ∧
      ((d.run Action.run ActionError.message (events.map .event)).run m).2.runAs.past = [] ∧
      (((d.run Action.run ActionError.message (events.map .event)).run m).2.files.readBytes
        "log").toOption = some "old".toUTF8 := by
  intro text files m events
  have hrun : ((Settings.ofText text).toOption.bind fun s =>
      (buildDispatcher s "default").toOption.map fun d =>
        let r := (d.run Action.run ActionError.message (events.map .event)).run m
        (r.1.1.filterMap (fun a => a.1.index?), r.2.runAs.past,
          (r.2.files.readBytes "log").toOption)) =
      some ([0, 1], [], some "old".toUTF8) := by
    decide +kernel
  obtain ⟨s, hs, hrun⟩ := Option.bind_eq_some_iff.1 hrun
  obtain ⟨d, hd, hrun⟩ := Option.map_eq_some_iff.1 hrun
  obtain ⟨hfired, hpast, hlog⟩ : _ ∧ _ ∧ _ := by simpa only [Prod.mk.injEq] using hrun
  have hbuilt := Fallible.toOption_eq_some_iff.1 hd
  obtain ⟨specs, invocations, hspecs, hinvokes, hindices, hall⟩ :=
    built_invocations_filled hbuilt m events
  refine ⟨s, d, specs, invocations, Fallible.toOption_eq_some_iff.1 hs, hbuilt, hspecs, hinvokes,
    hindices.symm.trans hfired, fun v hv => ?_, hpast, hlog⟩
  obtain ⟨spec, hspec, -, hlength, -⟩ := hall v hv
  exact ⟨spec, hspec, hlength⟩

end Daemon

end KeyChord
