import KeyChord.Proofs.Dispatch.Segmentation
import KeyChord.Proofs.Pattern.Language

/-!
# Bindings that never fire

A binding fires on a buffer that it has grown into one event at a time, and a decision that came
earlier would have used the buffer up. So whatever a prefix of the buffer calls for shadows it:
another binding that is complete before it, whichever of the two was registered first, and the reset
key. Of two bindings that are complete at once, the earlier one shadows the later.

* `FiresOn rc bindings events j b`: what is true of the events that binding `j` fires on.
* `Shadowed rc t bindings j`: the ways in which another binding or the reset key shadows binding
  `j`.
* `Shadowed.not_firesOn`: a shadowed binding fires on no events.
* `Dispatcher.run_not_fired_of_shadowed`: so it never fires in any run.
-/

namespace KeyChord

open Key Pattern

variable {α : Type} {rc t : Code} {bindings : List (Binding α)}

/-! ## The events that a binding fires on -/

/-- What is true of the events that the binding `b` of index `j` fires on. -/
structure FiresOn (rc : Code) (bindings : List (Binding α)) (events : List Event) (j : Nat)
    (b : Binding α) : Prop where
  get_eq : bindings[j]? = some b
  accept : (b.expression.process events).state = .accept
  first : ∀ i < j, ∀ b', bindings[i]? = some b' → (b'.expression.process events).state ≠ .accept
  /-- The reset key would have dropped the events before it. -/
  not_reset : Event.press rc ∉ events
  /-- Whatever accepts a part of the events from the front would have fired on that part. -/
  shortest : ∀ front later, events = front ++ later → front ≠ [] → later ≠ [] →
    ∀ b' ∈ bindings, (b'.expression.process front).state ≠ .accept

/-- A segment whose decision is to fire is made of events that the binding fires on. -/
theorem Segmentation.exists_firesOn {events rest : List Event} {segments : List Segment}
    (h : Segmentation rc bindings events segments rest) {segment : Segment}
    (hmem : segment ∈ segments) {j : Nat} (hfired : segment.decision.outcome = .fired j) :
    ∃ b, FiresOn rc bindings segment.events j b := by
  obtain ⟨hsettles, hshortest⟩ := h.settles_of_mem hmem
  obtain ⟨events, v⟩ := segment
  change Settles rc bindings events v at hsettles
  change v.outcome = .fired j at hfired
  -- a part from the front that calls for a decision is all there is
  have hall {front later : List Event} (happend : events = front ++ later) (hfront : front ≠ [])
      {v : Decision} (hv : Settles rc bindings front v) : later = [] := by
    have heq : front = events := hshortest front ⟨later, happend.symm⟩ hfront v hv
    rw [heq] at happend
    exact List.append_right_eq_self.1 happend.symm
  cases hsettles with
  | reset _ => cases hfired
  | flush _ _ => cases hfired
  | @fire i b hlast hb haccept hfirst =>
      obtain rfl : i = j := by simpa [Decision.outcome] using hfired
      refine ⟨b, hb, haccept, hfirst, ?_, ?_⟩
      · intro hreset
        obtain ⟨before, later, rfl⟩ := List.append_of_mem hreset
        have hsplit : before ++ Event.press rc :: later = (before ++ [.press rc]) ++ later := by
          simp
        have hnil : later = [] := hall hsplit (by simp) (.reset (by simp))
        exact hlast (by simp [hnil])
      · intro front later happend hfront hlater b' hb' haccept'
        have hsettles : ∃ v, Settles rc bindings front v := exists_settles_of_accept hb' haccept'
        obtain ⟨v, hv⟩ := hsettles
        exact hlater (hall happend hfront hv)

/-! ## Shadows -/

/-- Why the binding of index `j` can never fire, if `rc` is the reset key and `t` ends every
wildcard. -/
inductive Shadowed (rc t : Code) (bindings : List (Binding α)) (j : Nat) : Prop
  /-- The literals of another binding, registered before or after, are a part of its own from the
  front, and not all of them. -/
  | front {i : Nat} {b b' : Binding α} {literals more : List Literal} (hb : bindings[i]? = some b)
      (hb' : bindings[j]? = some b') (hfront : b.expression.matcher = row t literals)
      (hrow : b'.expression.matcher = row t (literals ++ more)) (hmore : more ≠ [])
  /-- An earlier binding has the same literals. -/
  | earlier {i : Nat} {b b' : Binding α} {literals : List Literal} (hij : i < j)
      (hb : bindings[i]? = some b) (hb' : bindings[j]? = some b')
      (hsame : b.expression.matcher = row t literals)
      (hrow : b'.expression.matcher = row t literals)
  /-- It waits for a press of the reset key. -/
  | resetButton {b' : Binding α} {literals : List Literal} (hb' : bindings[j]? = some b')
      (hrow : b'.expression.matcher = row t literals) (hmem : .button rc ∈ literals)
  /-- The reset key is what ends its wildcards. -/
  | resetWildcard {b' : Binding α} {literals : List Literal} (hb' : bindings[j]? = some b')
      (hrow : b'.expression.matcher = row t literals) (hmem : .wildcard ∈ literals) (ht : t = rc)

section

variable (hbuilt : ∀ b ∈ bindings, ∃ pattern tr, Expression.ofText pattern t tr = .ok b.expression)

include hbuilt

theorem matchesAs_of_getElem? {i : Nat} {b : Binding α} (hb : bindings[i]? = some b)
    {literals : List Literal} (hrow : b.expression.matcher = row t literals) :
    b.expression.MatchesAs t literals := by
  obtain ⟨pattern, tr, hx⟩ := hbuilt b (List.mem_of_getElem? hb)
  exact Expression.matchesAs_of_ofText hx hrow

variable {events : List Event} {j : Nat} {b : Binding α}

/-- A binding fires on no events that are to meet a literal with the reset key. -/
theorem FiresOn.key_ne_reset (h : FiresOn rc bindings events j b) {literals : List Literal}
    (hrow : b.expression.matcher = row t literals) {l : Literal} (hl : l ∈ literals) :
    (l.key t).code ≠ rc := by
  have hmatches := matchesAs_of_getElem? hbuilt h.get_eq hrow
  obtain ⟨-, runs, hspelt⟩ := (hmatches.accept_iff events).1 h.accept
  intro hrc
  have hmem : rc ∈ presses events := hrc ▸ hspelt.key_mem hl
  exact h.not_reset (mem_presses.1 hmem)

/-- A binding fires on no events that have a part from the front which another accepts. -/
theorem FiresOn.not_front (h : FiresOn rc bindings events j b) {i : Nat} {b' : Binding α}
    {literals more : List Literal} (hb' : bindings[i]? = some b')
    (hfront : b'.expression.matcher = row t literals)
    (hrow : b.expression.matcher = row t (literals ++ more)) : more = [] := by
  have hmatches := matchesAs_of_getElem? hbuilt h.get_eq hrow
  have hmatches' := matchesAs_of_getElem? hbuilt hb' hfront
  have haccept := h.accept
  rw [hmatches.state_eq, stateOf_eq_accept] at haccept
  obtain ⟨front, later, happend, hmeets, hlater⟩ := exists_front_of_residual haccept
  have haccept' : (b'.expression.process front).state = .accept := by
    rw [hmatches'.state_eq, hmeets]
    rfl
  by_contra hmore
  refine h.shortest front later happend ?_ ?_ b' (List.mem_of_getElem? hb') haccept'
  · rintro rfl
    exact hmatches'.nonempty (Option.some.inj hmeets)
  · rintro rfl
    exact hmore (Option.some.inj hlater)

/-- **A shadowed binding fires on no events.** -/
theorem Shadowed.not_firesOn (hshadowed : Shadowed rc t bindings j) :
    ¬ FiresOn rc bindings events j b := by
  intro h
  cases hshadowed with
  | front hb' hb hfront hrow hmore =>
      obtain rfl := Option.some.inj (h.get_eq.symm.trans hb)
      exact hmore (h.not_front hbuilt hb' hfront hrow)
  | earlier hij hb' hb hsame hrow =>
      obtain rfl := Option.some.inj (h.get_eq.symm.trans hb)
      have hstate := (matchesAs_of_getElem? hbuilt h.get_eq hrow).state_eq events
      have hstate' := (matchesAs_of_getElem? hbuilt hb' hsame).state_eq events
      exact h.first _ hij _ hb' (hstate'.trans (hstate.symm.trans h.accept))
  | resetButton hb hrow hmem =>
      obtain rfl := Option.some.inj (h.get_eq.symm.trans hb)
      exact h.key_ne_reset hbuilt hrow hmem rfl
  | resetWildcard hb hrow hmem ht =>
      obtain rfl := Option.some.inj (h.get_eq.symm.trans hb)
      exact h.key_ne_reset hbuilt hrow hmem ht

end

/-! ## Runs -/

/-- An event that a binding fires on ends a segment. -/
theorem Dispatcher.Cuts.exists_of_fired {d : Dispatcher α} {events rest : List Event}
    {segments : List Segment} (h : Cuts rc d events segments rest) {j : Nat}
    (hfired : .fired j ∈ (d.decisions (events.map .event)).map Decision.outcome) :
    ∃ segment ∈ segments, segment.decision.outcome = .fired j := by
  have hmem : Outcome.fired j ∈ segments.flatMap Segment.outcomes ++
      List.replicate rest.length .retained := by
    rw [← h.outcomes_eq]
    exact List.mem_append_right _ (List.mem_filter.2 ⟨hfired, by simp⟩)
  rcases List.mem_append.1 hmem with hmem | hmem
  · obtain ⟨segment, hsegment, hout⟩ := List.mem_flatMap.1 hmem
    refine ⟨segment, hsegment, ?_⟩
    rcases List.mem_append.1 hout with hout | hout
    · cases List.eq_of_mem_replicate hout
    · exact (List.mem_singleton.1 hout).symm
  · cases List.eq_of_mem_replicate hmem

/-- As long as what a dispatcher has buffered calls for no decision, no event that it is handed next
fires a shadowed binding. -/
theorem Dispatcher.not_fired_of_shadowed {d : Dispatcher α} {tr : Translator}
    (hreset : d.reset = Expression.reset rc tr) (hbuffer : Undecided rc d.bindings d.buffer)
    (hbuilt : ∀ b ∈ d.bindings, ∃ pattern tr', Expression.ofText pattern t tr' = .ok b.expression)
    {j : Nat} (hshadowed : Shadowed rc t d.bindings j) (events : List Event) :
    .fired j ∉ (d.decisions (events.map .event)).map Decision.outcome := by
  intro hfired
  have hbindings : ∀ b ∈ d.bindings, b.expression.Built := by
    intro b hb
    obtain ⟨pattern, tr', hx⟩ := hbuilt b hb
    exact .ofText hx
  obtain ⟨segments, rest, hcuts⟩ := exists_cuts hbindings hreset hbuffer events
  obtain ⟨segment, hmem, hsegment⟩ := hcuts.exists_of_fired hfired
  obtain ⟨b, hfires⟩ := hcuts.segmentation.exists_firesOn hmem hsegment
  exact hshadowed.not_firesOn hbuilt hfires

/-- **Shadowed bindings never fire.** Register bindings for expressions with one terminator in a new
dispatcher and hand it any events. No event fires a binding whose literals go on after those of
another binding, wherever that one stands, or are those of an earlier binding, or are met by the
reset key. -/
theorem Dispatcher.run_not_fired_of_shadowed {σ ε : Type}
    (invoke : α → List String → StateM σ (Completion ε)) (message : ε → String) (rc t : Code)
    (tr : Translator) (bindings : List (Binding α))
    (hbuilt : ∀ b ∈ bindings, ∃ pattern tr', Expression.ofText pattern t tr' = .ok b.expression)
    {j : Nat} (hshadowed : Shadowed rc t bindings j) (events : List Event) (s : σ) :
    let d := bindings.foldl bind (new (Expression.reset rc tr))
    let result := (d.run invoke message (events.map .event)).run s
    .fired j ∉ result.1.1.map Prod.fst := by
  intro d result
  have hd : d = ⟨Expression.reset rc tr, bindings, []⟩ := by
    simp only [d, foldl_bind, new, List.nil_append]
  have houtcomes : result.1.1.map Prod.fst =
      (d.decisions (events.map .event)).map Decision.outcome :=
    (d.run_spec invoke message (events.map .event) s).2.1
  rw [houtcomes, hd]
  exact not_fired_of_shadowed rfl undecided_nil hbuilt hshadowed events

/-- The first binding never comes to its button, because the second one, registered after it, ends
where its first wildcard does. -/
theorem Dispatcher.run_not_fired_of_shadowed_star :
    let bindings : List (Binding Unit) := [
      ⟨⟨"*<Enter>*", row 28 [.wildcard, .button 28, .wildcard], 28,
        Namespace.keyboard.translator⟩, ()⟩,
      ⟨⟨"*", row 28 [.wildcard], 28, Namespace.keyboard.translator⟩, ()⟩]
    let record (_ : Unit) (captures : List String) :
        StateM (List (List String)) (Completion String) :=
      fun written => (.done, written ++ [captures])
    let events : List Event := [.press 30, .release 30, .press 28, .press 28, .press 48, .press 28]
    let d := bindings.foldl bind (new (Expression.reset 1 Namespace.keyboard.translator))
    let result := (d.run record id (events.map .event)).run []
    (∀ b ∈ bindings, ∃ pattern tr, Expression.ofText pattern 28 tr = .ok b.expression) ∧
    Shadowed 1 28 bindings 0 ∧ .fired 0 ∉ result.1.1.map Prod.fst ∧
    result.1.1.map Prod.fst =
      [.retained, .retained, .fired 1, .fired 1, .retained, .fired 1] := by
  intro bindings record events
  have hbuilt : ∀ b ∈ bindings, ∃ pattern tr,
      Expression.ofText pattern 28 tr = .ok b.expression := by
    intro b hb
    rcases List.mem_cons.1 hb with rfl | hb
    · exact ⟨_, _, Expression.ofText_two_wildcards⟩
    · obtain rfl := List.mem_singleton.1 hb
      exact ⟨"*", Namespace.keyboard.translator, rfl⟩
  have hshadowed : Shadowed 1 28 bindings 0 :=
    @Shadowed.front _ _ _ _ _ 1 _ _ [.wildcard] [.button 28, .wildcard] rfl rfl rfl rfl (by simp)
  exact ⟨hbuilt, hshadowed, run_not_fired_of_shadowed record id 1 28 Namespace.keyboard.translator
    bindings hbuilt hshadowed events [], by decide +kernel⟩

end KeyChord
