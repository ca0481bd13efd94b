import KeyChord.Proofs.Daemon.Load
import KeyChord.Proofs.Dispatch.Shadow
import KeyChord.Proofs.Key.Spelling

/-!
# The reset key and the key that ends wildcards

The settings have two special keys whose names differ, once a pair of brackets around each has been
dropped and case is left aside. Resolving drops every opening bracket before a name and every
closing bracket after it, so names that differ may still mean one key; and then no binding with a
wildcard ever fires, since the reset key drops whatever it has matched.

* `buildDispatcher_reset_eq_terminator_iff`: when the two keys are one, and what follows.
* `reset_key_ends_wildcards`: settings that are accepted although they are.
-/

namespace KeyChord.Daemon

open KeyChord.Action Config Key Pattern Fallible

variable {s : Settings} {scheme : String} {d : Dispatcher Action}

/-- If the reset key ends wildcards, it shadows every binding with a star. -/
theorem shadowed_of_star {t : Translator} {rc : Code} {specs : List BindingSpec}
    {bindings : List (Binding Action)} (h : List.Forall₂ (Realizes t rc) specs bindings) {i : Nat}
    {b : Binding Action} (hb : bindings[i]? = some b)
    (hstar : '*' ∈ b.expression.pattern.toList) : Shadowed rc rc bindings i := by
  obtain ⟨spec, hspec⟩ := exists_realizes_of_mem h (List.mem_of_getElem? hb)
  obtain ⟨literals, heq, hcount⟩ := hspec.expression_eq
  have hwild : .wildcard ∈ literals := by
    rw [heq] at hstar
    rw [← List.count_pos_iff, hcount]
    exact List.count_pos_iff.2 hstar
  exact .resetWildcard hb (congrArg Expression.matcher heq) hwild rfl

/-- Two special keys without brackets are one key only if the kernel has two names for it. -/
theorem resetCode_eq_terminator_iff_of_unbracketed {rc terminator : Code}
    (hreset : s.keyNamespace.resolve? s.resetKey = some rc)
    (hwildcard : s.keyNamespace.resolve? s.wildcardKey = some terminator)
    (hbare : Namespace.Unbracketed s.resetKey) (hbare' : Namespace.Unbracketed s.wildcardKey) :
    rc = terminator ↔ Synonymous (s.keyNamespace.kernelName s.resetKey)
      (s.keyNamespace.kernelName s.wildcardKey) := by
  rw [Namespace.resolve?_eq_iff hreset hwildcard, Namespace.bareName_of_unbracketed hbare,
    Namespace.bareName_of_unbracketed hbare']
  exact or_iff_right s.keys_differ

/-- **When the reset key ends wildcards.** A dispatcher that has been built resets at the reset key,
and its wildcards end at the wildcard key. The two names mean one key exactly if they are spelt
alike up to brackets and case, or are the kernel's two names for it. Names that have no brackets
left are never spelt alike, since settings have names that differ. If the two keys are one, no
binding with a wildcard fires in any run. -/
theorem buildDispatcher_reset_eq_terminator_iff {σ ε : Type}
    (invoke : Action → List String → StateM σ (Completion ε)) (message : ε → String)
    (h : buildDispatcher s scheme = .ok d) :
    ∃ rc terminator, s.keyNamespace.resolve? s.resetKey = some rc ∧
      s.keyNamespace.resolve? s.wildcardKey = some terminator ∧
      d.reset = .reset rc s.keyNamespace.translator ∧
      (∀ b ∈ d.bindings, ∃ literals, b.expression = ⟨b.expression.pattern,
        row terminator literals, terminator, s.keyNamespace.translator⟩) ∧
      (rc = terminator ↔
        Text.asciiLower (Namespace.bareName s.resetKey.toList) =
          Text.asciiLower (Namespace.bareName s.wildcardKey.toList) ∨
        Synonymous (s.keyNamespace.kernelName s.resetKey)
          (s.keyNamespace.kernelName s.wildcardKey)) ∧
      (Namespace.Unbracketed s.resetKey → Namespace.Unbracketed s.wildcardKey →
        (rc = terminator ↔ Synonymous (s.keyNamespace.kernelName s.resetKey)
          (s.keyNamespace.kernelName s.wildcardKey))) ∧
      (rc = terminator → ∀ i b, d.bindings[i]? = some b → '*' ∈ b.expression.pattern.toList →
        ∀ (events : List Event) (state : σ),
          .fired i ∉
            ((d.run invoke message (events.map .event)).run state).1.1.map Prod.fst) := by
  obtain ⟨rc, terminator, specs, hreset, hwildcard, -, hbindings, hd, hbuffer⟩ :=
    buildDispatcher_eq_ok_iff.1 h
  refine ⟨rc, terminator, hreset, hwildcard, hd, fun b hb => ?_,
    Namespace.resolve?_eq_iff hreset hwildcard,
    resetCode_eq_terminator_iff_of_unbracketed hreset hwildcard, ?_⟩
  · obtain ⟨spec, hspec⟩ := exists_realizes_of_mem hbindings hb
    obtain ⟨literals, heq, -⟩ := hspec.expression_eq
    have hpattern : b.expression.pattern = spec.pattern := by rw [heq]
    rw [hpattern]
    exact ⟨literals, heq⟩
  -- the reset key is also the terminator, and shadows whatever waits for it
  · rintro rfl i b hb hstar events state
    have houtcomes := (d.run_spec invoke message (events.map .event) state).2.1
    rw [houtcomes]
    refine Dispatcher.not_fired_of_shadowed hd ?_ (fun b hb => ?_)
      (shadowed_of_star hbindings hb hstar) events
    · rw [hbuffer]
      exact undecided_nil
    · obtain ⟨spec, hspec⟩ := exists_realizes_of_mem hbindings hb
      exact ⟨spec.pattern, _, hspec.expression⟩

/-- By default the reset key does not end wildcards. -/
theorem buildDispatcher_reset_ne_terminator_default :
    let text :=
      "\x7b\"expressions\": \x7b\"default\": \x7b\"dummy\": \x7b\"a*\": \"\"\x7d\x7d\x7d\x7d"
    ∃ s d, Settings.ofText text = .ok s ∧ buildDispatcher s "default" = .ok d ∧
      ∃ rc terminator, d.reset = .reset rc s.keyNamespace.translator ∧ rc ≠ terminator ∧
        ∀ b ∈ d.bindings, b.expression.terminator = terminator := by
  intro text
  have hrun : ((Settings.ofText text).toOption.bind fun s =>
      (buildDispatcher s "default").toOption.map fun _ =>
        (s.keyNamespace, s.resetKey, s.wildcardKey)) = some (.keyboard, "ESC", "ENTER") := by
    decide +kernel
  obtain ⟨s, hs, hrun⟩ := Option.bind_eq_some_iff.1 hrun
  obtain ⟨d, hd, hrun⟩ := Option.map_eq_some_iff.1 hrun
  have hbuild := toOption_eq_some_iff.1 hd
  let record (_ : Action) (captures : List String) :
      StateM (List (List String)) (Completion String) :=
    fun written => (.done, written ++ [captures])
  obtain ⟨rc, terminator, -, -, hreset, hrows, -, hbare, -⟩ :=
    buildDispatcher_reset_eq_terminator_iff record id hbuild
  obtain ⟨hspace, hkeys⟩ := Prod.mk.inj hrun
  obtain ⟨hresetKey, hwildcardKey⟩ := Prod.mk.inj hkeys
  have hne : rc ≠ terminator := by
    intro hsame
    rw [hspace, hresetKey, hwildcardKey] at hbare
    have hsynonymous := (hbare (by decide) (by decide)).1 hsame
    exact absurd hsynonymous.2 (by decide +kernel)
  refine ⟨s, d, toOption_eq_some_iff.1 hs, hbuild, rc, terminator, hreset, hne, fun b hb => ?_⟩
  obtain ⟨literals, hrow⟩ := hrows b hb
  rw [hrow]

/-- A bracket that is not one of a pair is dropped only when the name is resolved: these settings
are accepted, and both of their special keys are the key of code 28. -/
theorem reset_key_ends_wildcards :
    let text := "\x7b\"reset_key\": \"ENTER>\", " ++
      "\"expressions\": \x7b\"default\": \x7b\"dummy\": \x7b\"*\": \"\"\x7d\x7d\x7d\x7d"
    ∃ s d, Settings.ofText text = .ok s ∧ buildDispatcher s "default" = .ok d ∧
      d.reset = .reset 28 s.keyNamespace.translator ∧
      ∃ b, d.bindings = [b] ∧
        b.expression = ⟨"*", row 28 [.wildcard], 28, s.keyNamespace.translator⟩ := by
  intro text
  have hrun : ((Settings.ofText text).toOption.bind fun s =>
      (buildDispatcher s "default").toOption.bind fun d =>
        (s.bindings "default").toOption.map fun specs =>
          (s.keyNamespace.resolve? s.resetKey, s.keyNamespace.resolve? s.wildcardKey,
            specs.map BindingSpec.pattern)) = some (some 28, some 28, ["*"]) := by
    decide +kernel
  obtain ⟨s, hs, hrun⟩ := Option.bind_eq_some_iff.1 hrun
  obtain ⟨d, hd, hrun⟩ := Option.bind_eq_some_iff.1 hrun
  obtain ⟨specs, hspecs, hrun⟩ := Option.map_eq_some_iff.1 hrun
  obtain ⟨hresetKey, hrun⟩ := Prod.mk.inj hrun
  obtain ⟨hwildcardKey, hpatterns⟩ := Prod.mk.inj hrun
  obtain ⟨spec, rfl, hpattern⟩ := List.map_eq_singleton_iff.1 hpatterns
  have hbuild := toOption_eq_some_iff.1 hd
  obtain ⟨rc, terminator, specs, hreset, hwildcard, hspecs', hbindings, hd, -⟩ :=
    buildDispatcher_eq_ok_iff.1 hbuild
  obtain rfl : 28 = rc := Option.some.inj (hresetKey.symm.trans hreset)
  obtain rfl : 28 = terminator := Option.some.inj (hwildcardKey.symm.trans hwildcard)
  obtain rfl : [spec] = specs :=
    Except.ok.inj ((toOption_eq_some_iff.1 hspecs).symm.trans hspecs')
  obtain ⟨b, others, hb, hothers, hbindings⟩ := List.forall₂_cons_left_iff.1 hbindings
  obtain rfl := List.forall₂_nil_left_iff.1 hothers
  have hexpression := hb.expression
  rw [hpattern] at hexpression
  exact ⟨s, d, toOption_eq_some_iff.1 hs, hbuild, hd, b, hbindings,
    (Except.ok.inj hexpression).symm⟩

end KeyChord.Daemon
