import KeyChord.Proofs.Pattern.Compiled
import KeyChord.Proofs.Pattern.Locality

/-!
# Other ways of running a sequence

A sequence goes on behind a child that is still waiting, and a sequence inside a sequence is run by
itself, with its own captures to keep or to lose. Neither shows. A solid matcher that waits has left
nothing, and on nothing all that comes behind it waits too and captures nothing; so one might as
well stop there. And the leaves of a tree make the same steps in a single row, only that the row
keeps what was captured before a rejection, where the sequence that rejects throws it away.

* `Matcher.evaluateStopping`: goes on behind a child only if it accepts.
* `Matcher.stopping_eq`: **stopping at a child that waits is the same**, for solid matchers, and
  hence for those of expressions.
* `Matcher.leaves`: the leaves of a tree, from left to right.
* `Matcher.Solid.evaluate_leaves`: **nesting makes no difference** but for the captures of a
  rejection.

An empty sequence would call a wait off; the example after `stopping_eq` is such a tree.
-/

namespace KeyChord.Pattern

open Key

theorem Matcher.Solid.pair {m m' : Matcher} (h : m.Solid) (h' : m'.Solid) :
    (Matcher.sequence [m, m']).Solid :=
  .sequence nofun (List.forall_mem_cons.2 ⟨h, List.forall_mem_singleton.2 h'⟩)

/-! ## What a waiting child leaves -/

/-- A solid matcher that waits has left nothing. -/
theorem Matcher.Solid.remainder_of_pending {m : Matcher} (h : m.Solid) {events : List Event}
    (hstate : (m.evaluate events).state = .pending) : (m.evaluate events).remainder = [] := by
  have hsettles := h.settles events
  generalize m.evaluate events = answer at hsettles hstate ⊢
  cases hsettles with
  | accept taken rest captures hrun => cases hstate
  | reject taken first rest captures hrun => cases hstate
  | pending taken captures => rfl

/-- Behind a child that waits, solid matchers change nothing. -/
theorem evaluateAll_of_pending {child : Matcher} {children : List Matcher} (hchild : child.Solid)
    (hchildren : ∀ m ∈ children, m.Solid) {events : List Event}
    (hstate : (child.evaluate events).state = .pending) (captures : List (List Event)) :
    Matcher.evaluateAll children ⟨.pending, (child.evaluate events).remainder, captures⟩ =
      ⟨.pending, [], captures⟩ := by
  rw [hchild.remainder_of_pending hstate]
  exact evaluateAll_pending_nil (fun m hm => (hchildren m hm).evaluate_nil) captures

/-! ## Stopping at the first child that does not accept -/

mutual

/-- Runs a matcher over a buffer, and each sequence in it no further than its children accept. -/
def Matcher.evaluateStopping : Matcher → List Event → Match
  | .button code transition, keys => awaitButton code transition keys
  | .wildcard terminator, keys => awaitTerminator terminator [] keys
  | .sequence children, keys => evaluateAllStopping children keys []

/-- Runs matchers one after another, each on what the one before left, up to the first that does not
accept. That one's captures are kept if it waits, and dropped if it rejects. -/
def Matcher.evaluateAllStopping : List Matcher → List Event → List (List Event) → Match
  | [], keys, before => ⟨.accept, keys, before⟩
  | child :: children, keys, before =>
    let next := child.evaluateStopping keys
    match next.state with
    | .accept => evaluateAllStopping children next.remainder (before ++ next.captures)
    | .pending => ⟨.pending, next.remainder, before ++ next.captures⟩
    | .reject => ⟨.reject, next.remainder, before⟩

end

/-- A row of solid matchers may stop where a child waits, if each child may. -/
theorem evaluateAllStopping_eq {children : List Matcher} (hsolid : ∀ m ∈ children, m.Solid)
    (h : ∀ m ∈ children, ∀ events, m.evaluateStopping events = m.evaluate events)
    (events : List Event) (before : List (List Event)) :
    Matcher.evaluateAllStopping children events before =
      Matcher.evaluateAll children ⟨.accept, events, before⟩ := by
  induction children generalizing events before with
  | nil => rfl
  | cons child children ih =>
      obtain ⟨hchild, hchildren⟩ := List.forall_mem_cons.1 h
      obtain ⟨hsolidChild, hsolidChildren⟩ := List.forall_mem_cons.1 hsolid
      simp only [Matcher.evaluateAllStopping, Matcher.evaluateAll, hchild events]
      cases hstate : (child.evaluate events).state with
      | accept =>
          simp only [reduceCtorEq, if_false]
          exact ih hsolidChildren hchildren _ _
      | reject => simp only [if_true]
      | pending =>
          simp only [reduceCtorEq, if_false]
          rw [evaluateAll_of_pending hsolidChild hsolidChildren hstate,
            hsolidChild.remainder_of_pending hstate]

theorem Matcher.Solid.evaluateStopping_eq {m : Matcher} (h : m.Solid) (events : List Event) :
    m.evaluateStopping events = m.evaluate events := by
  induction h generalizing events with
  | button code transition => rfl
  | wildcard terminator => rfl
  | sequence hne hchildren ih => exact evaluateAllStopping_eq hchildren ih events []

/-- The matcher of a non-empty row is solid. -/
theorem solid_row (t : Code) {literals : List Literal} (hne : literals ≠ []) :
    (row t literals).Solid := by
  refine .sequence (by simpa using hne) fun child hchild => ?_
  obtain ⟨l, -, rfl⟩ := List.mem_map.1 hchild
  cases l with
  | button code => exact .button code .press
  | wildcard => exact .wildcard t

/-- The matchers of expressions are solid. -/
theorem Expression.Built.solid {x : Expression} (h : x.Built) : x.matcher.Solid := by
  cases h with
  | @ofText pattern terminator t _ h =>
      obtain ⟨literals, hne, rfl, -⟩ := Expression.exists_row_of_ofText h
      exact solid_row terminator hne
  | reset code t => exact .wildcard code

/-- **Stopping at a child that waits is the same.** A matcher without an empty sequence answers
every buffer as it would if each sequence stopped at its first child that does not accept: with the
same state, remainder and captures. The matchers of expressions are of this kind, so for them the
two ways of running a sequence cannot be told apart. -/
theorem Matcher.stopping_eq :
    (∀ m : Matcher, m.Solid → ∀ events, m.evaluateStopping events = m.evaluate events) ∧
    ∀ x : Expression, x.Built →
      x.matcher.Solid ∧ ∀ events, x.matcher.evaluateStopping events = x.matcher.evaluate events :=
  ⟨fun _ hm events => hm.evaluateStopping_eq events,
    fun _ hx => ⟨hx.solid, fun events => hx.solid.evaluateStopping_eq events⟩⟩

/-- The innermost sequence waits and keeps its capture, which comes after that of the wildcard
before it; stopping, the last button is not run at all. The same for the expression of a text. -/
theorem Matcher.stopping_eq_waiting :
    let m : Matcher := .sequence [.sequence [.wildcard 28, .sequence [.wildcard 28,
      .button 31 .press]], .button 30 .release]
    let events : List Event := [.press 5, .press 28, .press 6, .release 9, .press 28, .release 31]
    m.Solid ∧ m.evaluate events = ⟨.pending, [], [[.press 5], [.press 6]]⟩ ∧
      m.evaluateStopping events = ⟨.pending, [], [[.press 5], [.press 6]]⟩ ∧
      ∃ x, Expression.ofText "*<Enter>*" 28 Namespace.keyboard.translator = .ok x ∧
        x.matcher.evaluateStopping events = x.matcher.evaluate events := by
  intro m events
  have hsolid : m.Solid :=
    .pair (.pair (.wildcard 28) (.pair (.wildcard 28) (.button 31 .press))) (.button 30 .release)
  have hanswer : m.evaluate events = ⟨.pending, [], [[.press 5], [.press 6]]⟩ := by
    decide +kernel
  obtain ⟨hstopping, hexpressions⟩ := Matcher.stopping_eq
  refine ⟨hsolid, hanswer, (hstopping m hsolid events).trans hanswer, _,
    Expression.ofText_two_wildcards, ?_⟩
  exact (hexpressions _ (.ofText Expression.ofText_two_wildcards)).2 events

/-- An empty sequence accepts what a wildcard is waiting for, but not if the wildcard has stopped
the row. -/
example : (Matcher.sequence [.wildcard 28, .sequence []]).evaluate [.press 30] =
      ⟨.accept, [], []⟩ ∧
    (Matcher.sequence [.wildcard 28, .sequence []]).evaluateStopping [.press 30] =
      ⟨.pending, [], []⟩ := by
  decide +kernel

/-! ## Nested sequences -/

mutual

/-- The leaves of a tree of sequences, from left to right. -/
def Matcher.leaves : Matcher → List Matcher
  | .button code transition => [.button code transition]
  | .wildcard terminator => [.wildcard terminator]
  | .sequence children => leavesAll children

/-- The leaves of a row of trees. -/
def Matcher.leavesAll : List Matcher → List Matcher
  | [] => []
  | child :: children => child.leaves ++ leavesAll children

end

/-- The answer `flat` is `nested`, but may have captures that a rejection has lost. -/
structure Match.Keeps (flat nested : Match) : Prop where
  state_eq : flat.state = nested.state
  remainder_eq : flat.remainder = nested.remainder
  captures_eq : nested.state ≠ .reject → flat.captures = nested.captures
  prefix_captures : nested.captures <+: flat.captures

namespace Match.Keeps

variable {flat nested : Match}

theorem refl (m : Match) : m.Keeps m :=
  ⟨rfl, rfl, fun _ => rfl, List.prefix_rfl⟩

theorem eq_of_ne_reject (h : flat.Keeps nested) (hstate : nested.state ≠ .reject) :
    flat = nested := by
  obtain ⟨state, remainder, captures⟩ := flat
  obtain ⟨hs, hr, hc, -⟩ := h
  cases hs
  cases hr
  cases hc hstate
  rfl

end Match.Keeps

/-- A row that does not reject is gone on with. -/
theorem evaluateAll_append (first second : List Matcher) {before : Match}
    (h : (Matcher.evaluateAll first before).state ≠ .reject) :
    Matcher.evaluateAll (first ++ second) before =
      Matcher.evaluateAll second (Matcher.evaluateAll first before) := by
  induction first generalizing before with
  | nil => rfl
  | cons child first ih =>
      simp only [List.cons_append, Matcher.evaluateAll] at h ⊢
      split
      · rename_i hreject
        rw [if_pos hreject] at h
        exact absurd rfl h
      · rename_i hreject
        rw [if_neg hreject] at h
        exact ih h

/-- A row that rejects is not gone on with. -/
theorem evaluateAll_append_of_reject {first second : List Matcher} {before : Match}
    (hbefore : before.state ≠ .reject)
    (h : (Matcher.evaluateAll first before).state = .reject) :
    Matcher.evaluateAll (first ++ second) before = Matcher.evaluateAll first before := by
  induction first generalizing before with
  | nil => exact absurd h hbefore
  | cons child first ih =>
      simp only [List.cons_append, Matcher.evaluateAll] at h ⊢
      split
      · rfl
      · rename_i hreject
        rw [if_neg hreject] at h
        exact ih hreject h

theorem captures_awaitButton (code : Code) (transition : Transition) (events : List Event) :
    (awaitButton code transition events).captures = [] := by
  fun_induction awaitButton code transition events <;> first | rfl | assumption

/-- A leaf that is run alone loses nothing when it rejects: it has no captures then. -/
theorem evaluateAll_singleton {m : Matcher} {events : List Event}
    (h : (m.evaluate events).state = .reject → (m.evaluate events).captures = []) :
    Matcher.evaluateAll [m] ⟨.accept, events, []⟩ = m.evaluate events := by
  simp only [Matcher.evaluateAll, List.nil_append]
  split
  · rename_i hreject
    rw [← hreject, ← h hreject]
  · rfl

/-- All leaves of a row wait when there are no events. -/
theorem evaluate_nil_of_mem_leavesAll {children : List Matcher}
    (h : ∀ m ∈ children, ∀ leaf ∈ m.leaves, leaf.evaluate [] = ⟨.pending, [], []⟩) :
    ∀ leaf ∈ Matcher.leavesAll children, leaf.evaluate [] = ⟨.pending, [], []⟩ := by
  induction children with
  | nil => nofun
  | cons child children ih =>
      obtain ⟨hchild, hchildren⟩ := List.forall_mem_cons.1 h
      rw [Matcher.leavesAll]
      exact List.forall_mem_append.2 ⟨hchild, ih hchildren⟩

theorem Matcher.Solid.evaluate_nil_of_mem_leaves {m : Matcher} (h : m.Solid) :
    ∀ leaf ∈ m.leaves, leaf.evaluate [] = ⟨.pending, [], []⟩ := by
  induction h with
  | button code transition => exact List.forall_mem_singleton.2 rfl
  | wildcard terminator => exact List.forall_mem_singleton.2 rfl
  | sequence hne hchildren ih => exact evaluate_nil_of_mem_leavesAll ih

/-- A row of trees and the row of all their leaves answer alike if each tree and its leaves do. -/
theorem keeps_evaluateAll_leavesAll {children : List Matcher} (hsolid : ∀ m ∈ children, m.Solid)
    (h : ∀ m ∈ children, ∀ events,
      (Matcher.evaluateAll m.leaves ⟨.accept, events, []⟩).Keeps (m.evaluate events))
    (events : List Event) (before : List (List Event)) :
    (Matcher.evaluateAll (Matcher.leavesAll children) ⟨.accept, events, before⟩).Keeps
      (Matcher.evaluateAll children ⟨.accept, events, before⟩) := by
  induction children generalizing events before with
  | nil => exact .refl _
  | cons child children ih =>
      obtain ⟨hsolidChild, hsolidChildren⟩ := List.forall_mem_cons.1 hsolid
      obtain ⟨hchild, hchildren⟩ := List.forall_mem_cons.1 h
      have hkeeps := hchild events
      have hleaves : Matcher.evaluateAll child.leaves ⟨.accept, events, before⟩ =
          (Matcher.evaluateAll child.leaves ⟨.accept, events, []⟩).prepend before := by
        rw [← evaluateAll_prepend, List.append_nil]
      rw [Matcher.leavesAll]
      by_cases hreject : (child.evaluate events).state = .reject
      · -- the leaves reject where the child does, and keep what it loses
        have hflat : (Matcher.evaluateAll child.leaves ⟨.accept, events, before⟩).state =
            .reject := by
          rw [hleaves, Match.state_prepend, hkeeps.state_eq, hreject]
        have hnested : Matcher.evaluateAll (child :: children) ⟨.accept, events, before⟩ =
            ⟨.reject, (child.evaluate events).remainder, before⟩ := by
          simp only [Matcher.evaluateAll, hreject, if_true]
        have haccept : (⟨.accept, events, before⟩ : Match).state ≠ .reject := by simp
        rw [evaluateAll_append_of_reject haccept hflat, hnested]
        refine ⟨hflat, ?_, fun hne => absurd rfl hne, ?_⟩
        · rw [hleaves, Match.remainder_prepend, hkeeps.remainder_eq]
        · rw [hleaves]
          exact List.prefix_append before _
      · -- the leaves answer as the child does, and both rows go on from there
        have hflat : Matcher.evaluateAll child.leaves ⟨.accept, events, before⟩ =
            (child.evaluate events).prepend before := by
          rw [hleaves, hkeeps.eq_of_ne_reject hreject]
        have hnested : Matcher.evaluateAll (child :: children) ⟨.accept, events, before⟩ =
            Matcher.evaluateAll children ((child.evaluate events).prepend before) := by
          simp only [Matcher.evaluateAll, if_neg hreject]
          rfl
        rw [evaluateAll_append _ _ (by rwa [hflat]), hflat, hnested]
        cases hstate : (child.evaluate events).state with
        | reject => exact absurd hstate hreject
        | accept =>
            have hnext := ih hsolidChildren hchildren (child.evaluate events).remainder
              (before ++ (child.evaluate events).captures)
            rwa [← hstate] at hnext
        | pending =>
            have hnext : (child.evaluate events).prepend before =
                ⟨.pending, [], before ++ (child.evaluate events).captures⟩ := by
              rw [← hstate, ← hsolidChild.remainder_of_pending hstate]
              rfl
            rw [hnext, evaluateAll_pending_nil fun m hm => (hsolidChildren m hm).evaluate_nil,
              evaluateAll_pending_nil <| evaluate_nil_of_mem_leavesAll fun m hm =>
                (hsolidChildren m hm).evaluate_nil_of_mem_leaves]
            exact .refl _

theorem Matcher.Solid.keeps_evaluateAll_leaves {m : Matcher} (h : m.Solid) (events : List Event) :
    (Matcher.evaluateAll m.leaves ⟨.accept, events, []⟩).Keeps (m.evaluate events) := by
  induction h generalizing events with
  | button code transition =>
      rw [Matcher.leaves, evaluateAll_singleton]
      · exact .refl _
      · exact fun _ => captures_awaitButton code transition events
  | wildcard terminator =>
      rw [Matcher.leaves, evaluateAll_singleton]
      · exact .refl _
      · -- a wildcard never rejects
        intro hreject
        rcases awaitTerminator_cases terminator [] events with ⟨rest, taken, hrun⟩ | hrun
        · rw [Matcher.evaluate, hrun] at hreject
          cases hreject
        · rw [Matcher.evaluate, hrun]
  | sequence hne hchildren ih => exact keeps_evaluateAll_leavesAll hchildren ih events []

/-- **Nesting makes no difference.** A matcher without an empty sequence answers every buffer with
the state and the remainder of the one sequence of its leaves. The captures are the same where it
accepts or waits. Where it rejects it may have lost some, so that only the first of them are
left. -/
theorem Matcher.Solid.evaluate_leaves {m : Matcher} (h : m.Solid) (events : List Event) :
    let flat := (Matcher.sequence m.leaves).evaluate events
    let nested := m.evaluate events
    flat.state = nested.state ∧ flat.remainder = nested.remainder ∧
      (nested.state ≠ .reject → flat.captures = nested.captures) ∧
      (nested.state = .reject → nested.captures <+: flat.captures) := by
  have hkeeps := h.keeps_evaluateAll_leaves events
  exact ⟨hkeeps.state_eq, hkeeps.remainder_eq, hkeeps.captures_eq, fun _ => hkeeps.prefix_captures⟩

/-- The inner sequence rejects the last press and loses its capture; the row of leaves keeps both
captures. One press less, and both wait with two captures. -/
theorem Matcher.Solid.evaluate_leaves_rejected :
    let m : Matcher := .sequence [.wildcard 28, .sequence [.wildcard 28, .button 31 .press]]
    let events : List Event := [.press 5, .press 28, .press 6, .release 9, .press 28]
    m.Solid ∧ m.leaves = [.wildcard 28, .wildcard 28, .button 31 .press] ∧
      m.evaluate (events ++ [.press 7]) = ⟨.reject, [.press 7], [[.press 5]]⟩ ∧
      (Matcher.sequence m.leaves).evaluate (events ++ [.press 7]) =
        ⟨.reject, [.press 7], [[.press 5], [.press 6]]⟩ ∧
      [[.press 5]] <+: ((Matcher.sequence m.leaves).evaluate (events ++ [.press 7])).captures ∧
      ((Matcher.sequence m.leaves).evaluate events).captures = [[.press 5], [.press 6]] := by
  intro m events
  have hsolid : m.Solid := .pair (.wildcard 28) (.pair (.wildcard 28) (.button 31 .press))
  have hrejected : m.evaluate (events ++ [.press 7]) = ⟨.reject, [.press 7], [[.press 5]]⟩ := by
    decide +kernel
  have hwaiting : m.evaluate events = ⟨.pending, [], [[.press 5], [.press 6]]⟩ := by
    decide +kernel
  obtain ⟨-, -, -, hprefix⟩ := hsolid.evaluate_leaves (events ++ [.press 7])
  obtain ⟨-, -, hcaptures, -⟩ := hsolid.evaluate_leaves events
  rw [hrejected] at hprefix
  rw [hwaiting] at hcaptures
  exact ⟨hsolid, rfl, hrejected, by decide +kernel, hprefix rfl, hcaptures nofun⟩

end KeyChord.Pattern
