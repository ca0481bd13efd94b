import KeyChord.Daemon.Load
import KeyChord.Proofs.Action.Recipe
import KeyChord.Proofs.Config.Loaded
import KeyChord.Proofs.Pattern.Compiled

/-!
# A scheme is loaded as a whole

Settings and a scheme make a dispatcher in steps, each of which may fail: two keys, the bindings of
the scheme, and for each of these a header, a pattern and a command. The dispatcher has a binding
for each specification, in order, and there is none if any step fails; what is reported is the first
failing step.

* `Sound translator terminator spec`: header, pattern and command of a specification are in order.
* `Realizes translator terminator spec b`: the binding is what the specification says.
* `SpecFault`, `FirstFault`: what is wrong with a specification, and with a scheme.
* `buildBinding_eq_ok_iff`, `buildBinding_eq_error_iff`: one specification.
* `buildDispatcher_eq_ok_iff`, `buildDispatcher_eq_error_iff`: a scheme.
* `buildDispatcher_all_or_nothing`: all of it for settings that have been loaded.
-/

namespace KeyChord

namespace Daemon

open KeyChord.Action Config Key Pattern Fallible

/-! ## One specification -/

/-- Header, pattern and command are in order. -/
structure Sound (t : Translator) (terminator : Code) (spec : BindingSpec) : Prop where
  header : ∃ recipe, Recipe.ofParameters spec.header.kind spec.header.parameters = .ok recipe
  pattern : ∃ x, Expression.ofText spec.pattern terminator t = .ok x
  command : ∃ template, Template.ofText spec.command = .ok template

/-- The binding is what the specification says. -/
structure Realizes (t : Translator) (terminator : Code) (spec : BindingSpec) (b : Binding Action) :
    Prop where
  expression : Expression.ofText spec.pattern terminator t = .ok b.expression
  /-- The action is that of the header's kind and parameters for the command. -/
  action : ∃ recipe template,
    Recipe.ofParameters spec.header.kind spec.header.parameters = .ok recipe ∧
    Template.ofText spec.command = .ok template ∧ b.action = recipe.fill template

/-- What is wrong with a specification: the header first, then the pattern, then the command. -/
inductive SpecFault (t : Translator) (terminator : Code) (spec : BindingSpec) : LoadError → Prop
  | header {e : ActionError}
      (h : Recipe.ofParameters spec.header.kind spec.header.parameters = .error e) :
      SpecFault t terminator spec (.badHeader spec.pattern e)
  | pattern {e : PatternError}
      (hheader : ∃ recipe,
        Recipe.ofParameters spec.header.kind spec.header.parameters = .ok recipe)
      (h : Expression.ofText spec.pattern terminator t = .error e) :
      SpecFault t terminator spec (.badPattern spec.pattern e)
  | command {e : TemplateError}
      (hheader : ∃ recipe,
        Recipe.ofParameters spec.header.kind spec.header.parameters = .ok recipe)
      (hpattern : ∃ x, Expression.ofText spec.pattern terminator t = .ok x)
      (h : Template.ofText spec.command = .error e) :
      SpecFault t terminator spec (.badCommand spec.pattern (.ofTemplate e))

section

variable {t : Translator} {terminator : Code} {spec : BindingSpec} {b : Binding Action}

theorem Realizes.sound (h : Realizes t terminator spec b) : Sound t terminator spec := by
  obtain ⟨recipe, template, hrecipe, htemplate, -⟩ := h.action
  exact ⟨⟨recipe, hrecipe⟩, ⟨b.expression, h.expression⟩, ⟨template, htemplate⟩⟩

theorem Sound.exists_realizes (h : Sound t terminator spec) :
    ∃ b, Realizes t terminator spec b := by
  obtain ⟨recipe, hrecipe⟩ := h.header
  obtain ⟨x, hx⟩ := h.pattern
  obtain ⟨template, htemplate⟩ := h.command
  exact ⟨⟨x, recipe.fill template⟩, hx, recipe, template, hrecipe, htemplate, rfl⟩

/-- The binding has the text of the pattern, with a wildcard for each star, and all its wildcards
wait for the terminator. -/
theorem Realizes.expression_eq (h : Realizes t terminator spec b) :
    ∃ literals, b.expression = ⟨spec.pattern, row terminator literals, terminator, t⟩ ∧
      literals.count .wildcard = spec.pattern.toList.count '*' := by
  obtain ⟨literals, -, hx, hcount⟩ := Expression.exists_row_of_ofText h.expression
  exact ⟨literals, hx, hcount⟩

/-- **A specification makes the binding that it says.** -/
theorem buildBinding_eq_ok_iff :
    buildBinding t terminator spec = .ok b ↔ Realizes t terminator spec b := by
  unfold buildBinding
  simp only [bind_eq_ok_iff, mapError_eq_ok_iff, Recipe.action_eq]
  constructor
  -- the recipe does not decide whether the command is well-formed, so it is read by itself
  · rintro ⟨recipe, hrecipe, x, hx, action, haction, h⟩
    cases h
    cases htemplate : Template.ofText spec.command with
    | error e =>
        rw [htemplate] at haction
        cases haction
    | ok template =>
        rw [htemplate] at haction
        cases haction
        exact ⟨hx, recipe, template, hrecipe, htemplate, rfl⟩
  · rintro ⟨hx, recipe, template, hrecipe, htemplate, haction⟩
    refine ⟨recipe, hrecipe, b.expression, hx, recipe.fill template, ?_, ?_⟩
    · rw [htemplate]
      rfl
    · rw [← haction]
      rfl

/-- **Or else what is wrong with it first is reported.** -/
theorem buildBinding_eq_error_iff {e : LoadError} :
    buildBinding t terminator spec = .error e ↔ SpecFault t terminator spec e := by
  unfold buildBinding
  simp only [bind_eq_error_iff, mapError_eq_ok_iff, mapError_eq_error_iff, Recipe.action_eq]
  constructor
  · rintro (⟨_, h, rfl⟩ | ⟨recipe, hrecipe, ⟨_, h, rfl⟩ | ⟨x, hx, ⟨_, h, rfl⟩ | ⟨_, _, h⟩⟩⟩)
    · exact .header h
    · exact .pattern ⟨recipe, hrecipe⟩ h
    · cases htemplate : Template.ofText spec.command with
      | error e =>
          rw [htemplate] at h
          cases h
          exact .command ⟨recipe, hrecipe⟩ ⟨x, hx⟩ htemplate
      | ok template =>
          rw [htemplate] at h
          cases h
    · cases h
  · intro h
    cases h with
    | header h => exact Or.inl ⟨_, h, rfl⟩
    | pattern hheader h =>
        obtain ⟨recipe, hrecipe⟩ := hheader
        exact Or.inr ⟨recipe, hrecipe, Or.inl ⟨_, h, rfl⟩⟩
    | command hheader hpattern h =>
        obtain ⟨recipe, hrecipe⟩ := hheader
        obtain ⟨x, hx⟩ := hpattern
        refine Or.inr ⟨recipe, hrecipe, Or.inr ⟨x, hx, Or.inl ⟨_, ?_, rfl⟩⟩⟩
        rw [h]
        rfl

end

/-! ## A scheme -/

/-- What is wrong with a scheme: the reset key first, then the wildcard key, then the bindings as
they are written, and then the first specification that is not in order. -/
inductive FirstFault (s : Settings) (scheme : String) : LoadError → Prop
  | resetKey (h : s.keyNamespace.resolve? s.resetKey = none) :
      FirstFault s scheme (.unknownKey .reset s.resetKey)
  | wildcardKey {rc : Code} (hreset : s.keyNamespace.resolve? s.resetKey = some rc)
      (h : s.keyNamespace.resolve? s.wildcardKey = none) :
      FirstFault s scheme (.unknownKey .wildcard s.wildcardKey)
  | bindings {rc terminator : Code} {e : ConfigError}
      (hreset : s.keyNamespace.resolve? s.resetKey = some rc)
      (hwildcard : s.keyNamespace.resolve? s.wildcardKey = some terminator)
      (h : s.bindings scheme = .error e) : FirstFault s scheme (.config e)
  | spec {rc terminator : Code} {before after : List BindingSpec} {spec : BindingSpec}
      {e : LoadError} (hreset : s.keyNamespace.resolve? s.resetKey = some rc)
      (hwildcard : s.keyNamespace.resolve? s.wildcardKey = some terminator)
      (hspecs : s.bindings scheme = .ok (before ++ spec :: after))
      (hbefore : ∀ earlier ∈ before, Sound s.keyNamespace.translator terminator earlier)
      (h : SpecFault s.keyNamespace.translator terminator spec e) : FirstFault s scheme e

section

variable {s : Settings} {scheme : String}

theorem resolveKey_eq_ok_iff {t : Translator} {role : KeyRole} {name : String} {code : Code} :
    resolveKey t role name = .ok code ↔ t.resolve? name = some code := by
  unfold resolveKey
  cases t.resolve? name <;> simp

theorem resolveKey_eq_error_iff {t : Translator} {role : KeyRole} {name : String} {e : LoadError} :
    resolveKey t role name = .error e ↔ t.resolve? name = none ∧ .unknownKey role name = e := by
  unfold resolveKey
  cases t.resolve? name <;> simp

/-- **A scheme makes a dispatcher with a binding for each specification.** -/
theorem buildDispatcher_eq_ok_iff {d : Dispatcher Action} :
    buildDispatcher s scheme = .ok d ↔
      ∃ rc terminator specs, s.keyNamespace.resolve? s.resetKey = some rc ∧
        s.keyNamespace.resolve? s.wildcardKey = some terminator ∧
        s.bindings scheme = .ok specs ∧
        List.Forall₂ (Realizes s.keyNamespace.translator terminator) specs d.bindings ∧
        d.reset = .reset rc s.keyNamespace.translator ∧ d.buffer = [] := by
  unfold buildDispatcher
  simp only [bind_eq_ok_iff, mapError_eq_ok_iff, resolveKey_eq_ok_iff, mapM_eq_ok_iff,
    buildBinding_eq_ok_iff]
  constructor
  · rintro ⟨rc, hreset, terminator, hwildcard, specs, hspecs, bindings, hbindings, h⟩
    cases h
    exact ⟨rc, terminator, specs, hreset, hwildcard, hspecs, hbindings, rfl, rfl⟩
  · obtain ⟨reset, bindings, buffer⟩ := d
    rintro ⟨rc, terminator, specs, hreset, hwildcard, hspecs, hbindings, rfl, rfl⟩
    exact ⟨rc, hreset, terminator, hwildcard, specs, hspecs, bindings, hbindings, rfl⟩

theorem exists_buildBinding_iff {t : Translator} {terminator : Code} {spec : BindingSpec} :
    (∃ b, buildBinding t terminator spec = .ok b) ↔ Sound t terminator spec := by
  simp only [buildBinding_eq_ok_iff]
  exact ⟨fun ⟨_, h⟩ => h.sound, Sound.exists_realizes⟩

/-- **Or else what is wrong with it first is reported.** -/
theorem buildDispatcher_eq_error_iff {e : LoadError} :
    buildDispatcher s scheme = .error e ↔ FirstFault s scheme e := by
  unfold buildDispatcher
  simp only [bind_eq_error_iff, mapError_eq_ok_iff, mapError_eq_error_iff, resolveKey_eq_ok_iff,
    resolveKey_eq_error_iff, mapM_eq_error_iff, exists_buildBinding_iff, buildBinding_eq_error_iff]
  constructor
  · rintro (⟨h, rfl⟩ | ⟨rc, hreset, ⟨h, rfl⟩ | ⟨terminator, hwildcard, ⟨_, h, rfl⟩ |
      ⟨specs, hspecs, ⟨before, spec, after, rfl, hbefore, h⟩ | ⟨_, _, h⟩⟩⟩⟩)
    · exact .resetKey h
    · exact .wildcardKey hreset h
    · exact .bindings hreset hwildcard h
    · exact .spec hreset hwildcard hspecs hbefore h
    · cases h
  · intro h
    cases h with
    | resetKey h => exact Or.inl ⟨h, rfl⟩
    | wildcardKey hreset h => exact Or.inr ⟨_, hreset, Or.inl ⟨h, rfl⟩⟩
    | bindings hreset hwildcard h =>
        exact Or.inr ⟨_, hreset, Or.inr ⟨_, hwildcard, Or.inl ⟨_, h, rfl⟩⟩⟩
    | spec hreset hwildcard hspecs hbefore h =>
        exact Or.inr ⟨_, hreset, Or.inr ⟨_, hwildcard, Or.inr ⟨_, hspecs,
          Or.inl ⟨_, _, _, rfl, hbefore, h⟩⟩⟩⟩

/-- There is a binding for each specification exactly if all of them are in order. -/
theorem exists_forall₂_realizes_iff {t : Translator} {terminator : Code}
    {specs : List BindingSpec} :
    (∃ bindings, List.Forall₂ (Realizes t terminator) specs bindings) ↔
      ∀ spec ∈ specs, Sound t terminator spec := by
  simp only [exists_forall₂_iff, ← buildBinding_eq_ok_iff, exists_buildBinding_iff]

/-- Behind each binding there is a specification that it realizes. -/
theorem exists_realizes_of_mem {t : Translator} {terminator : Code} {specs : List BindingSpec}
    {bindings : List (Binding Action)}
    (h : List.Forall₂ (Realizes t terminator) specs bindings) {b : Binding Action}
    (hb : b ∈ bindings) : ∃ spec, Realizes t terminator spec b := by
  obtain ⟨i, hi, rfl⟩ := List.getElem_of_mem hb
  exact ⟨_, h.get (by rw [h.length_eq]; exact hi) hi⟩

/-- There is a dispatcher exactly if every check passes. -/
theorem exists_buildDispatcher_iff :
    (∃ d, buildDispatcher s scheme = .ok d) ↔
      ∃ rc terminator specs, s.keyNamespace.resolve? s.resetKey = some rc ∧
        s.keyNamespace.resolve? s.wildcardKey = some terminator ∧
        s.bindings scheme = .ok specs ∧
        ∀ spec ∈ specs, Sound s.keyNamespace.translator terminator spec := by
  simp only [buildDispatcher_eq_ok_iff]
  constructor
  · rintro ⟨d, rc, terminator, specs, hreset, hwildcard, hspecs, hbindings, -, -⟩
    exact ⟨rc, terminator, specs, hreset, hwildcard, hspecs,
      exists_forall₂_realizes_iff.1 ⟨d.bindings, hbindings⟩⟩
  · rintro ⟨rc, terminator, specs, hreset, hwildcard, hspecs, hsound⟩
    obtain ⟨bindings, hbindings⟩ := exists_forall₂_realizes_iff.2 hsound
    exact ⟨⟨.reset rc s.keyNamespace.translator, bindings, []⟩, rc, terminator, specs, hreset,
      hwildcard, hspecs, hbindings, rfl, rfl⟩

/-- No fault is in the namespace: it was checked when the settings were loaded. -/
theorem FirstFault.ne_unknownNamespace {e : LoadError} (h : FirstFault s scheme e)
    (text : String) : e ≠ .config (.unknownNamespace text) := by
  rintro rfl
  cases h with
  | bindings _ _ h =>
      rcases Settings.eq_of_bindings_eq_error h with h | ⟨_, h⟩
      · cases h
      · cases h
  | spec _ _ _ _ h => cases h

end

/-- **A scheme is loaded as a whole or not at all.** Settings that have been loaded have passed the
check of a draft, whose text for the namespace names theirs. There is a dispatcher exactly if both
keys resolve, the bindings are well written and each specification is in order; it has the binding
of each specification at the same place, nothing in its buffer, and resets at the reset key. What is
reported otherwise is what is wrong first, and never the namespace. -/
theorem buildDispatcher_all_or_nothing {s : Settings} (hs : s.Loaded) (scheme : String) :
    (∃ (members : Members Json) (draft : Draft),
      members.foldlM Draft.take {} = .ok draft ∧ draft.check = .ok s) ∧
    (∀ draft : Draft, draft.check = .ok s →
      Namespace.ofText? draft.keyNamespace = some s.keyNamespace) ∧
    ((∃ d, buildDispatcher s scheme = .ok d) ↔
      ∃ rc terminator specs, s.keyNamespace.resolve? s.resetKey = some rc ∧
        s.keyNamespace.resolve? s.wildcardKey = some terminator ∧
        s.bindings scheme = .ok specs ∧
        ∀ spec ∈ specs, Sound s.keyNamespace.translator terminator spec) ∧
    (∀ d, buildDispatcher s scheme = .ok d →
      ∃ (rc terminator : Code) (specs : List BindingSpec),
        s.keyNamespace.resolve? s.resetKey = some rc ∧
        s.keyNamespace.resolve? s.wildcardKey = some terminator ∧
        s.bindings scheme = .ok specs ∧ d.bindings.length = specs.length ∧
        (∀ (i : Nat) spec b, specs[i]? = some spec → d.bindings[i]? = some b →
          Realizes s.keyNamespace.translator terminator spec b ∧
          ∃ literals, b.expression =
            ⟨spec.pattern, row terminator literals, terminator, s.keyNamespace.translator⟩) ∧
        d.reset = .reset rc s.keyNamespace.translator ∧ d.buffer = []) ∧
    (∀ e, buildDispatcher s scheme = .error e ↔ FirstFault s scheme e) ∧
    ∀ text, buildDispatcher s scheme ≠ .error (.config (.unknownNamespace text)) := by
  refine ⟨hs.exists_draft, fun draft hcheck => (Draft.check_eq_ok_iff.1 hcheck).1,
    exists_buildDispatcher_iff, fun d hd => ?_, fun _ => buildDispatcher_eq_error_iff,
    fun text h => ?_⟩
  · obtain ⟨rc, terminator, specs, hreset, hwildcard, hspecs, hbindings, hd, hbuffer⟩ :=
      buildDispatcher_eq_ok_iff.1 hd
    refine ⟨rc, terminator, specs, hreset, hwildcard, hspecs, hbindings.length_eq.symm,
      fun i spec b hspec hb => ?_, hd, hbuffer⟩
    obtain ⟨hi, rfl⟩ := List.getElem?_eq_some_iff.1 hspec
    obtain ⟨hi', rfl⟩ := List.getElem?_eq_some_iff.1 hb
    have hrealizes := hbindings.get hi hi'
    obtain ⟨literals, hrow, -⟩ := hrealizes.expression_eq
    exact ⟨hrealizes, literals, hrow⟩
  · exact (buildDispatcher_eq_error_iff.1 h).ne_unknownNamespace text rfl

/-- One scheme makes three bindings in the order of its text. In the other, the pattern of the
second specification is at fault before the command of the third. -/
theorem buildDispatcher_all_or_nothing_two_schemes :
    let text := "\x7b\"expressions\": \x7b" ++
      "\"default\": \x7b\"dummy\": \x7b\"ab\": \"\"\x7d, " ++
      "\"shell user=bob\": \x7b\"a*\": \"echo \x7b0\x7d\", \"x\": \"ls\"\x7d\x7d, " ++
      "\"broken\": \x7b\"dummy\": \x7b\"a\": \"\", \"<\": \"\", \"b\": \"\x7b\"" ++
      "\x7d\x7d\x7d\x7d"
    ∃ s, Settings.ofText text = .ok s ∧ s.Loaded ∧
      (∃ d specs, buildDispatcher s "default" = .ok d ∧ s.bindings "default" = .ok specs ∧
        d.bindings.length = specs.length ∧
        d.bindings.map (fun b => b.expression.pattern) = ["ab", "a*", "x"]) ∧
      ∃ e, buildDispatcher s "broken" = .error e ∧ FirstFault s "broken" e ∧
        e.chain = ["Invalid pattern \"<\"", "Not a valid pattern: \"<\""] := by
  intro text
  -- settings have no decidable equality, so what is evaluated is only what the two schemes come to
  have hrun : ((Settings.ofText text).toOption.bind fun s =>
      (buildDispatcher s "default").toOption.bind fun d =>
        match buildDispatcher s "broken" with
        | .ok _ => none
        | .error e => some (d.bindings.map (fun b => b.expression.pattern), e.chain)) =
      some (["ab", "a*", "x"], ["Invalid pattern \"<\"", "Not a valid pattern: \"<\""]) := by
    decide +kernel
  obtain ⟨s, hs, hrun⟩ := Option.bind_eq_some_iff.1 hrun
  obtain ⟨d, hd, hrun⟩ := Option.bind_eq_some_iff.1 hrun
  have htext := toOption_eq_some_iff.1 hs
  have hloaded : s.Loaded := .inline htext
  have hdefault := toOption_eq_some_iff.1 hd
  obtain ⟨-, -, -, hok, -⟩ := buildDispatcher_all_or_nothing hloaded "default"
  obtain ⟨-, -, -, -, herror, -⟩ := buildDispatcher_all_or_nothing hloaded "broken"
  obtain ⟨_, _, specs, -, -, hspecs, hlength, -⟩ := hok d hdefault
  cases hbroken : buildDispatcher s "broken" with
  | ok _ =>
      rw [hbroken] at hrun
      cases hrun
  | error e =>
      rw [hbroken] at hrun
      obtain ⟨hpatterns, hchain⟩ := Prod.mk.inj (Option.some.inj hrun)
      exact ⟨s, htext, hloaded, ⟨d, specs, hdefault, hspecs, hlength, hpatterns⟩, e, hbroken,
        (herror e).1 hbroken, hchain⟩

end Daemon

end KeyChord
