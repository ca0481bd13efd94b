import KeyChord.Pattern.Matcher
import Mathlib.Data.List.Basic

/-!
# Matching is local

A matcher decides by the events that it consumes and, when it rejects, by the first event that it
leaves. What comes behind these has no influence: it may be cut off or replaced, and the matcher
gives the same answer with the new events left over.

An empty sequence accepts at once, also behind a matcher that is still waiting, and would call the
wait off. So all of this is about matchers without an empty sequence (`Matcher.Solid`).

* `Settles run events answer`: an answer together with the reason why it is local.
* `Matcher.Solid.evaluate_nil`: on no events at all, a solid matcher waits.
* `Matcher.Solid.settles`: the answers of solid matchers are local.
* `Matcher.Solid.evaluate_local`: **what an answer depends on, for each of the three states.**
-/

namespace KeyChord.Pattern

open Key

/-- A matcher in which no sequence is empty, at any depth. -/
inductive Matcher.Solid : Matcher → Prop
  | button (code : Code) (transition : Transition) : Solid (.button code transition)
  | wildcard (terminator : Code) : Solid (.wildcard terminator)
  | sequence {children : List Matcher} (hne : children ≠ [])
      (hchildren : ∀ child ∈ children, Solid child) : Solid (.sequence children)

/-- An answer to a buffer that depends on no more than was consumed, and the first event left if it
is a rejection. A function that matches buffers gives the same answer whatever comes later. -/
inductive Settles (run : List Event → Match) : List Event → Match → Prop
  | accept (taken rest : List Event) (captures : List (List Event))
      (hrun : ∀ later, run (taken ++ later) = ⟨.accept, later, captures⟩) :
      Settles run (taken ++ rest) ⟨.accept, rest, captures⟩
  | reject (taken : List Event) (first : Event) (rest : List Event)
      (captures : List (List Event))
      (hrun : ∀ later, run (taken ++ first :: later) = ⟨.reject, first :: later, captures⟩) :
      Settles run (taken ++ first :: rest) ⟨.reject, first :: rest, captures⟩
  | pending (taken : List Event) (captures : List (List Event)) :
      Settles run taken ⟨.pending, [], captures⟩

/-! ## One matcher -/

/-- After events that lead from one function to another, the answers of the second one are those of
the first. -/
theorem Settles.after {run next : List Event → Match} (taken : List Event) {events : List Event}
    {answer : Match} (hnext : ∀ later, run (taken ++ later) = next later)
    (h : Settles next events answer) : Settles run (taken ++ events) answer := by
  cases h with
  | accept taken' rest captures hrun =>
      rw [← List.append_assoc]
      refine .accept (taken ++ taken') rest captures fun later => ?_
      rw [List.append_assoc, hnext, hrun]
  | reject taken' first rest captures hrun =>
      rw [← List.append_assoc]
      refine .reject (taken ++ taken') first rest captures fun later => ?_
      rw [List.append_assoc, hnext, hrun]
  | pending _ captures => exact .pending _ captures

/-- An event that is skipped makes no difference. -/
theorem Settles.skip {run next : List Event → Match} {e : Event} {events : List Event}
    {answer : Match} (hnext : ∀ later, run (e :: later) = next later)
    (h : Settles next events answer) : Settles run (e :: events) answer :=
  Settles.after [e] hnext h

theorem settles_awaitButton (code : Code) (transition : Transition) (events : List Event) :
    Settles (awaitButton code transition) events (awaitButton code transition events) := by
  induction events with
  | nil => exact .pending [] []
  | cons e events ih =>
      by_cases htransition : e.transition = transition
      · by_cases hcode : e.code = code
        · have hrun (later : List Event) :
              awaitButton code transition (e :: later) = ⟨.accept, later, []⟩ := by
            rw [awaitButton, if_pos htransition, if_pos hcode]
          rw [hrun]
          exact .accept [e] events [] hrun
        · by_cases hrelease : transition = .release
          · have hrun (later : List Event) : awaitButton code transition (e :: later) =
                awaitButton code transition later := by
              rw [awaitButton, if_pos htransition, if_neg hcode, if_pos hrelease]
            rw [hrun]
            exact ih.skip hrun
          · have hrun (later : List Event) : awaitButton code transition (e :: later) =
                ⟨.reject, e :: later, []⟩ := by
              rw [awaitButton, if_pos htransition, if_neg hcode, if_neg hrelease]
            rw [hrun]
            exact .reject [] e events [] hrun
      · by_cases hrelease : transition = .release
        · have hrun (later : List Event) : awaitButton code transition (e :: later) =
              ⟨.reject, e :: later, []⟩ := by
            rw [awaitButton, if_neg htransition, if_pos hrelease]
          rw [hrun]
          exact .reject [] e events [] hrun
        · have hrun (later : List Event) : awaitButton code transition (e :: later) =
              awaitButton code transition later := by
            rw [awaitButton, if_neg htransition, if_neg hrelease]
          rw [hrun]
          exact ih.skip hrun

theorem settles_awaitTerminator (terminator : Code) (run : List Event) (events : List Event) :
    Settles (awaitTerminator terminator run) events (awaitTerminator terminator run events) := by
  induction events generalizing run with
  | nil => exact .pending [] []
  | cons e events ih =>
      by_cases hpress : e.isPress
      · by_cases hcode : e.code = terminator
        · have hrun (later : List Event) : awaitTerminator terminator run (e :: later) =
              ⟨.accept, later, [run.reverse]⟩ := by
            rw [awaitTerminator, if_pos hpress, if_pos hcode]
          rw [hrun]
          exact .accept [e] events [run.reverse] hrun
        · have hrun (later : List Event) : awaitTerminator terminator run (e :: later) =
              awaitTerminator terminator (e :: run) later := by
            rw [awaitTerminator, if_pos hpress, if_neg hcode]
          rw [hrun]
          exact (ih (e :: run)).skip hrun
      · have hrun (later : List Event) : awaitTerminator terminator run (e :: later) =
            awaitTerminator terminator run later := by
          rw [awaitTerminator, if_neg hpress]
        rw [hrun]
        exact (ih run).skip hrun

/-! ## Matchers one after another -/

/-- Matchers that wait when there are no events go on waiting behind one that does, and capture
nothing. -/
theorem evaluateAll_pending_nil {children : List Matcher}
    (h : ∀ child ∈ children, child.evaluate [] = ⟨.pending, [], []⟩)
    (captures : List (List Event)) :
    Matcher.evaluateAll children ⟨.pending, [], captures⟩ = ⟨.pending, [], captures⟩ := by
  induction children with
  | nil => rfl
  | cons child children ih =>
      obtain ⟨hchild, hchildren⟩ := List.forall_mem_cons.1 h
      simp only [Matcher.evaluateAll, hchild, reduceCtorEq, if_false, List.append_nil]
      exact ih hchildren

/-- **On no events at all, a solid matcher waits.** -/
theorem Matcher.Solid.evaluate_nil {m : Matcher} (h : m.Solid) :
    m.evaluate [] = ⟨.pending, [], []⟩ := by
  induction h with
  | button code transition => rfl
  | wildcard terminator => rfl
  | @sequence children hne _ ih =>
      obtain ⟨child, children, rfl⟩ := List.exists_cons_of_ne_nil hne
      obtain ⟨hchild, hchildren⟩ := List.forall_mem_cons.1 ih
      simp only [Matcher.evaluate, Matcher.evaluateAll, hchild, reduceCtorEq, if_false,
        List.append_nil]
      exact evaluateAll_pending_nil hchildren []

/-- A row of matchers is local if each of them is, and none calls off the wait of another. -/
theorem settles_evaluateAll {children : List Matcher}
    (hnil : ∀ child ∈ children, child.evaluate [] = ⟨.pending, [], []⟩)
    (h : ∀ child ∈ children, ∀ events, Settles child.evaluate events (child.evaluate events))
    (before : List (List Event)) (events : List Event) :
    Settles (fun later => Matcher.evaluateAll children ⟨.accept, later, before⟩) events
      (Matcher.evaluateAll children ⟨.accept, events, before⟩) := by
  induction children generalizing before events with
  | nil => exact .accept [] events before fun later => rfl
  | cons child children ih =>
      obtain ⟨-, hnil⟩ := List.forall_mem_cons.1 hnil
      obtain ⟨hchild, hchildren⟩ := List.forall_mem_cons.1 h
      have hstep (later : List Event) :
          Matcher.evaluateAll (child :: children) ⟨.accept, later, before⟩ =
            if (child.evaluate later).state = .reject then
              ⟨.reject, (child.evaluate later).remainder, before⟩
            else Matcher.evaluateAll children ⟨(child.evaluate later).state,
              (child.evaluate later).remainder, before ++ (child.evaluate later).captures⟩ := rfl
      have hfirst := hchild events
      generalize hanswer : child.evaluate events = answer at hfirst
      cases hfirst with
      | accept taken rest captures hrun =>
          have hnext (later : List Event) :
              Matcher.evaluateAll (child :: children) ⟨.accept, taken ++ later, before⟩ =
                Matcher.evaluateAll children ⟨.accept, later, before ++ captures⟩ := by
            rw [hstep, hrun]
            rfl
          rw [hnext]
          exact (ih hnil hchildren (before ++ captures) rest).after taken hnext
      | reject taken first rest captures hrun =>
          have hrejected (later : List Event) :
              Matcher.evaluateAll (child :: children) ⟨.accept, taken ++ first :: later, before⟩ =
                ⟨.reject, first :: later, before⟩ := by
            rw [hstep, hrun]
            rfl
          rw [hrejected]
          exact .reject taken first rest before hrejected
      | pending taken captures =>
          -- nothing is left, so whatever comes behind has nothing but to wait
          have hwaits : Matcher.evaluateAll (child :: children) ⟨.accept, events, before⟩ =
              ⟨.pending, [], before ++ captures⟩ := by
            rw [hstep, hanswer]
            exact evaluateAll_pending_nil hnil (before ++ captures)
          rw [hwaits]
          exact .pending events (before ++ captures)

/-- The answers of solid matchers are local. -/
theorem Matcher.Solid.settles {m : Matcher} (h : m.Solid) (events : List Event) :
    Settles m.evaluate events (m.evaluate events) := by
  induction h generalizing events with
  | button code transition =>
      exact Settles.after [] (fun later => rfl)
        (settles_awaitButton code transition events)
  | wildcard terminator =>
      exact Settles.after [] (fun later => rfl)
        (settles_awaitTerminator terminator [] events)
  | sequence hne hchildren ih =>
      exact Settles.after [] (fun later => rfl)
        (settles_evaluateAll (fun child hchild => (hchildren child hchild).evaluate_nil)
          (fun child hchild => ih child hchild) [] events)

/-- **What an answer depends on.** A solid matcher consumes the front of a buffer and leaves the
rest. If it accepts, it accepts the same front before any other events, with the same captures, and
leaves those. If it rejects, something is left, and the front with the first event left is rejected
before any other events, again with the same captures. If it waits, nothing is left. -/
theorem Matcher.Solid.evaluate_local {m : Matcher} (h : m.Solid) (events : List Event) :
    ∃ taken, events = taken ++ (m.evaluate events).remainder ∧
      ((m.evaluate events).state = .accept →
        ∀ later, m.evaluate (taken ++ later) = ⟨.accept, later, (m.evaluate events).captures⟩) ∧
      ((m.evaluate events).state = .reject →
        ∃ first rest, (m.evaluate events).remainder = first :: rest ∧
          ∀ later, m.evaluate (taken ++ [first] ++ later) =
            ⟨.reject, [first] ++ later, (m.evaluate events).captures⟩) ∧
      ((m.evaluate events).state = .pending → (m.evaluate events).remainder = []) := by
  have hsettles := h.settles events
  generalize hanswer : m.evaluate events = answer at hsettles ⊢
  cases hsettles with
  | accept taken rest captures hrun =>
      exact ⟨taken, rfl, fun _ => hrun, nofun, nofun⟩
  | reject taken first rest captures hrun =>
      refine ⟨taken, rfl, nofun, fun _ => ⟨first, rest, rfl, fun later => ?_⟩, nofun⟩
      rw [List.append_assoc]
      exact hrun later
  | pending taken captures =>
      exact ⟨events, (List.append_nil events).symm, nofun, nofun, fun _ => rfl⟩

/-- The inner sequence skips a release of another key and accepts; the last press is left, and any
other events may stand in its place. -/
theorem Matcher.Solid.evaluate_local_nested :
    let m : Matcher :=
      .sequence [.button 30 .press, .sequence [.wildcard 28, .button 31 .release]]
    let taken : List Event :=
      [.release 2, .press 30, .press 35, .press 28, .release 9, .release 31]
    m.Solid ∧ m.evaluate (taken ++ [.press 7]) = ⟨.accept, [.press 7], [[.press 35]]⟩ ∧
      ∀ later, m.evaluate (taken ++ later) = ⟨.accept, later, [[.press 35]]⟩ := by
  intro m taken
  have hsolid : m.Solid := by
    refine .sequence nofun fun child hchild => ?_
    rcases List.mem_pair.1 hchild with rfl | rfl
    · exact .button 30 .press
    · refine .sequence nofun fun child hchild => ?_
      rcases List.mem_pair.1 hchild with rfl | rfl
      · exact .wildcard 28
      · exact .button 31 .release
  have hanswer : m.evaluate (taken ++ [.press 7]) = ⟨.accept, [.press 7], [[.press 35]]⟩ := by
    decide +kernel
  obtain ⟨front, hfront, haccept, -⟩ := hsolid.evaluate_local (taken ++ [.press 7])
  rw [hanswer] at hfront haccept
  obtain rfl : taken = front := List.append_cancel_right hfront
  exact ⟨hsolid, hanswer, haccept rfl⟩

/-- Behind an empty sequence a wildcard's wait is an acceptance, which more events would change. -/
example : (Matcher.sequence [.wildcard 28, .sequence []]).evaluate [.press 30] =
    ⟨.accept, [], []⟩ := by
  decide +kernel

end KeyChord.Pattern
