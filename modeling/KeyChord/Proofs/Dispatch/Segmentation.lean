import KeyChord.Proofs.Dispatch.Decision
import KeyChord.Proofs.Dispatch.Run
import KeyChord.Proofs.Pattern.Viability
import Mathlib.Data.List.Forall2
import Mathlib.Data.Nat.Find

/-!
# A run cuts its events into segments

A dispatcher looks at its whole buffer again after every event. What comes of it can be said without
a buffer: the events, less the repeats, are cut into segments from the front, each the shortest
stretch that calls for a decision, and what is left over in the end calls for none.

* `Settles rc bindings events v`: the events call for the decision `v`.
* `Segmentation rc bindings events segments rest`: the greedy cut.
* `Segmentation.unique`: there is one cut at most.
* `Dispatcher.Cuts`: what a run that makes a cut comes to, with a lemma for each kind of event.
* `exists_cuts`: every run makes a cut, whatever is in the buffer that calls for nothing yet.
* `run_eq_segmentation`: the same for a new dispatcher, with outcomes, calls and buffer.
-/

namespace KeyChord

open Key Pattern

/-! ## The cut -/

/-- A stretch of events with the decision that it calls for. -/
structure Segment where
  events : List Event
  decision : Decision

/-- The outcomes of the events of a segment: all but the last are kept. -/
def Segment.outcomes (segment : Segment) : List Outcome :=
  List.replicate (segment.events.length - 1) .retained ++ [segment.decision.outcome]

section

variable {α : Type} (rc : Code) (bindings : List (Binding α))

/-- The decision that a stretch of events calls for, if it calls for one. -/
inductive Settles (events : List Event) : Decision → Prop
  /-- The last event is a press of the reset key. -/
  | reset (hlast : events.getLast? = some (.press rc)) : Settles events .reset
  /-- It is not, and this binding is the first to accept. -/
  | fire {i : Nat} {b : Binding α} (hlast : events.getLast? ≠ some (.press rc))
      (hb : bindings[i]? = some b) (haccept : (b.expression.process events).state = .accept)
      (hfirst : ∀ j < i, ∀ b', bindings[j]? = some b' →
        (b'.expression.process events).state ≠ .accept) :
      Settles events (.fire i (b.expression.process events).captures)
  /-- It is not, and whatever comes after these events, no binding accepts. -/
  | flush (hlast : events.getLast? ≠ some (.press rc))
      (hdead : ∀ b ∈ bindings, ∀ later,
        (b.expression.process (events ++ later)).state ≠ .accept) :
      Settles events .flush

/-- No part of the events from the front calls for a decision. -/
def Undecided (events : List Event) : Prop :=
  ∀ front, front <+: events → front ≠ [] → ∀ v, ¬ Settles rc bindings front v

/-- The greedy cut of events into segments and a rest. Each segment is the shortest part from the
front that calls for a decision. -/
inductive Segmentation : List Event → List Segment → List Event → Prop
  | rest {rest : List Event} (h : Undecided rc bindings rest) : Segmentation rest [] rest
  | cut {segment : Segment} {later rest : List Event} {segments : List Segment}
      (hne : segment.events ≠ [])
      (hsettles : Settles rc bindings segment.events segment.decision)
      (hshortest : ∀ front, front <+: segment.events → front ≠ [] →
        ∀ v, Settles rc bindings front v → front = segment.events)
      (hlater : Segmentation later segments rest) :
      Segmentation (segment.events ++ later) (segment :: segments) rest

end

variable {α : Type} {rc : Code} {bindings : List (Binding α)}

/-! ## There is one cut -/

theorem ne_accept_of_dead {x : Expression} {events : List Event}
    (hdead : ∀ later, (x.process (events ++ later)).state ≠ .accept) :
    (x.process events).state ≠ .accept := by
  have hnone := hdead []
  rwa [List.append_nil] at hnone

/-- Events call for one decision at most. -/
theorem Settles.unique {events : List Event} {v w : Decision}
    (hv : Settles rc bindings events v) (hw : Settles rc bindings events w) : v = w := by
  cases hv with
  | reset hlast =>
      cases hw with
      | reset _ => rfl
      | fire hnot _ _ _ => exact absurd hlast hnot
      | flush hnot _ => exact absurd hlast hnot
  | @fire i b hnot hb haccept hfirst =>
      cases hw with
      | reset hlast => exact absurd hlast hnot
      | @fire j b' _ hb' haccept' hfirst' =>
          rcases Nat.lt_trichotomy i j with hij | rfl | hij
          · exact absurd haccept (hfirst' i hij b hb)
          · rw [Option.some.inj (hb.symm.trans hb')]
          · exact absurd haccept' (hfirst j hij b' hb')
      | flush _ hdead =>
          exact absurd haccept (ne_accept_of_dead (hdead b (List.mem_of_getElem? hb)))
  | flush hnot hdead =>
      cases hw with
      | reset hlast => exact absurd hlast hnot
      | @fire i b _ hb haccept _ =>
          exact absurd haccept (ne_accept_of_dead (hdead b (List.mem_of_getElem? hb)))
      | flush _ _ => rfl

/-- Events never call for being ignored, nor for being retained. -/
theorem Settles.ne_ignore {events : List Event} {v : Decision}
    (h : Settles rc bindings events v) : v ≠ .ignore := by
  cases h <;> simp

theorem Settles.ne_retain {events : List Event} {v : Decision}
    (h : Settles rc bindings events v) : v ≠ .retain := by
  cases h <;> simp

/-- **There is one cut at most.** -/
theorem Segmentation.unique {events rest rest' : List Event} {segments segments' : List Segment}
    (h : Segmentation rc bindings events segments rest)
    (h' : Segmentation rc bindings events segments' rest') :
    segments = segments' ∧ rest = rest' := by
  induction h generalizing segments' rest' with
  | @rest rest hrest =>
      cases h' with
      | rest _ => exact ⟨rfl, rfl⟩
      | cut hne hsettles _ _ =>
          exact absurd hsettles (hrest _ (List.prefix_append _ _) hne _)
  | @cut segment later rest segments hne hsettles hshortest _ ih =>
      generalize hall : segment.events ++ later = all at h'
      cases h' with
      | rest hrest =>
          subst hall
          exact absurd hsettles (hrest _ (List.prefix_append _ _) hne _)
      | @cut segment' later' _ segments' hne' hsettles' hshortest' hlater' =>
          -- of two settled parts from the front, one is a part of the other
          have hevents : segment.events = segment'.events := by
            have hfront' : segment'.events <+: segment.events ++ later :=
              hall ▸ List.prefix_append _ _
            rcases List.prefix_or_prefix_of_prefix (List.prefix_append _ _) hfront' with hp | hp
            · exact hshortest' _ hp hne _ hsettles
            · exact (hshortest _ hp hne' _ hsettles').symm
          obtain ⟨events, v⟩ := segment
          obtain ⟨events', v'⟩ := segment'
          obtain rfl : events = events' := hevents
          obtain rfl : later = later' := List.append_cancel_left hall
          obtain rfl : v = v' := hsettles.unique hsettles'
          obtain ⟨rfl, rfl⟩ := ih hlater'
          exact ⟨rfl, rfl⟩

/-- Nothing is lost and nothing comes twice. -/
theorem Segmentation.flatMap_events {events rest : List Event} {segments : List Segment}
    (h : Segmentation rc bindings events segments rest) :
    segments.flatMap Segment.events ++ rest = events := by
  induction h with
  | rest _ => rfl
  | cut _ _ _ _ ih => rw [List.flatMap_cons, List.append_assoc, ih]

/-- Each segment calls for its decision, and no shorter part of it from the front calls for one. -/
theorem Segmentation.settles_of_mem {events rest : List Event} {segments : List Segment}
    (h : Segmentation rc bindings events segments rest) {segment : Segment}
    (hmem : segment ∈ segments) :
    Settles rc bindings segment.events segment.decision ∧
      ∀ front, front <+: segment.events → front ≠ [] →
        ∀ v, Settles rc bindings front v → front = segment.events := by
  induction h with
  | rest _ => cases hmem
  | cut _ hsettles hshortest _ ih =>
      rcases List.mem_cons.1 hmem with rfl | hmem
      · exact ⟨hsettles, hshortest⟩
      · exact ih hmem

/-- What a binding accepts calls for a decision. -/
theorem exists_settles_of_accept {events : List Event} {b : Binding α} (hb : b ∈ bindings)
    (haccept : (b.expression.process events).state = .accept) :
    ∃ v, Settles rc bindings events v := by
  by_cases hlast : events.getLast? = some (.press rc)
  · exact ⟨.reset, .reset hlast⟩
  -- the first binding that accepts fires
  let Accepts (i : Nat) : Prop :=
    ∃ b, bindings[i]? = some b ∧ (b.expression.process events).state = .accept
  obtain ⟨i, hi⟩ := List.mem_iff_getElem?.1 hb
  classical
  have hsome : ∃ i, Accepts i := ⟨i, b, hi, haccept⟩
  obtain ⟨b', hb', haccept'⟩ := Nat.find_spec hsome
  exact ⟨_, .fire hlast hb' haccept' fun j hj b hb hj' => Nat.find_min hsome hj ⟨b, hb, hj'⟩⟩

/-! ## Buffers that call for nothing yet -/

theorem undecided_nil : Undecided rc bindings [] := by
  intro front hfront hne
  exact absurd (List.prefix_nil.1 hfront) hne

namespace Undecided

variable {events : List Event} (h : Undecided rc bindings events)

include h

/-- The reset key would have called for a decision. -/
theorem not_mem_reset : Event.press rc ∉ events := by
  intro hmem
  obtain ⟨before, later, rfl⟩ := List.append_of_mem hmem
  have hfront : before ++ [.press rc] <+: before ++ .press rc :: later := ⟨later, by simp⟩
  exact h _ hfront (by simp) .reset (.reset (by simp))

/-- One more event that calls for nothing either. -/
theorem concat {e : Event} (he : ∀ v, ¬ Settles rc bindings (events ++ [e]) v) :
    Undecided rc bindings (events ++ [e]) := by
  intro front hfront hne v
  rcases List.prefix_concat_iff.1 hfront with rfl | hfront
  · exact he v
  · exact h front hfront hne v

/-- If one more event calls for a decision, no shorter part from the front does. -/
theorem eq_concat {e : Event} {front : List Event} (hfront : front <+: events ++ [e])
    (hne : front ≠ []) {v : Decision} (hv : Settles rc bindings front v) :
    front = events ++ [e] := by
  rcases List.prefix_concat_iff.1 hfront with hall | hfront
  · exact hall
  · exact absurd hv (h front hfront hne v)

end Undecided

/-! ## A run makes the cut -/

namespace Dispatcher

section

variable {d : Dispatcher α} {t : Translator} (hreset : d.reset = Expression.reset rc t)
  (hbuilt : ∀ b ∈ d.bindings, b.expression.Built)

include hreset hbuilt

/-- **What a dispatcher decides is what the events call for**: it keeps them exactly if they call
for nothing. This is where pending and rejecting get their meaning: a binding that is pending
accepts some buffer that goes on from here, and one that rejects accepts none. -/
theorem decision_settles (hbuffer : Event.press rc ∉ d.buffer) {e : Event}
    (he : e.transition ≠ .repeated) :
    (d.decision e = .retain ∧ ∀ v, ¬ Settles rc d.bindings (d.buffer ++ [e]) v) ∨
      Settles rc d.bindings (d.buffer ++ [e]) (d.decision e) := by
  have hlast : (d.reset.process (d.buffer ++ [e])).state = .accept ↔
      (d.buffer ++ [e]).getLast? = some (.press rc) := by
    rw [hreset, Expression.reset_accept_iff hbuffer]
    simp
  have hjudged := judged_decision (d := d) he
  generalize d.decision e = v at hjudged
  cases hjudged with
  | reset haccept => exact Or.inr (.reset (hlast.1 haccept))
  | fire hnot hb haccept hfirst => exact Or.inr (.fire (mt hlast.2 hnot) hb haccept hfirst)
  | @retain b hnot hnone hb hpending =>
      refine Or.inl ⟨rfl, fun v hv => ?_⟩
      cases hv with
      | reset hl => exact hnot (hlast.2 hl)
      | fire _ hb' haccept _ => exact hnone _ (List.mem_of_getElem? hb') haccept
      | flush _ hdead =>
          obtain ⟨t', literals, hmatches⟩ := (hbuilt b hb).exists_matchesAs
          obtain ⟨later, -, haccept⟩ := hmatches.exists_accept_of_pending hpending
          exact hdead b hb later haccept
  | flush hnot hall =>
      refine Or.inr (.flush (mt hlast.2 hnot) fun b hb later haccept => ?_)
      obtain ⟨t', literals, hmatches⟩ := (hbuilt b hb).exists_matchesAs
      exact (hmatches.not_reject_iff _).2 ⟨later, haccept⟩ (hall b hb)

end

/-- What a run over events comes to if they are cut into these segments and this rest, with what is
in the buffer in front of them. Its events have had the outcome `retained` already. -/
structure Cuts (rc : Code) (d : Dispatcher α) (events : List Event) (segments : List Segment)
    (rest : List Event) : Prop where
  segmentation : Segmentation rc d.bindings
    (d.buffer ++ events.filter fun e => e.transition ≠ .repeated) segments rest
  afterAll_eq : d.afterAll (events.map .event) = { d with buffer := rest }
  calls_eq : d.calls (events.map .event) =
    segments.filterMap fun segment => segment.decision.call? d.bindings
  outcomes_eq : List.replicate d.buffer.length .retained ++
      ((d.decisions (events.map .event)).map Decision.outcome).filter (· ≠ .ignored) =
    segments.flatMap Segment.outcomes ++ List.replicate rest.length .retained

namespace Cuts

variable {d : Dispatcher α} {e : Event} {events rest : List Event} {segments : List Segment}

theorem nil (hbuffer : Undecided rc d.bindings d.buffer) : Cuts rc d [] [] d.buffer where
  segmentation := by simpa using .rest hbuffer
  afterAll_eq := rfl
  calls_eq := rfl
  outcomes_eq := by simp [decisions]

/-- A repeat is left out of the cut. -/
theorem ignore (he : e.transition = .repeated) (h : Cuts rc (d.next e) events segments rest) :
    Cuts rc d (e :: events) segments rest := by
  have hignore := (d.decision_eq_ignore_iff e).2 he
  have hnext := next_of_ignore hignore
  rw [hnext] at h
  refine ⟨?_, ?_, ?_, ?_⟩
  · rw [List.filter_cons_of_neg (by simpa using he)]
    exact h.segmentation
  · rw [← h.afterAll_eq]
    exact congrArg (afterAll · _) hnext
  · rw [List.map_cons, calls_event, hignore, hnext, h.calls_eq]
    rfl
  · rw [← h.outcomes_eq, List.map_cons, decisions_event, hignore, hnext]
    rfl

/-- An event that stays in the buffer goes into the same segment. -/
theorem retain (hretain : d.decision e = .retain) (h : Cuts rc (d.next e) events segments rest) :
    Cuts rc d (e :: events) segments rest := by
  have he : e.transition ≠ .repeated := by
    rw [Ne, ← d.decision_eq_ignore_iff, hretain]
    simp
  have hnext := next_of_retain hretain
  have hlength : (d.next e).buffer.length = d.buffer.length + 1 := by simp [hnext]
  refine ⟨?_, h.afterAll_eq, ?_, ?_⟩
  · have hcut := h.segmentation
    rw [hnext] at hcut
    rw [List.filter_cons_of_pos (by simpa using he), List.append_cons]
    exact hcut
  · rw [List.map_cons, calls_event, hretain, h.calls_eq]
    rfl
  · rw [← h.outcomes_eq, hlength, List.replicate_succ', List.append_assoc, List.map_cons,
      decisions_event, hretain]
    rfl

/-- An event that calls for a decision ends a segment, and the run goes on with no buffer. -/
theorem settle (hbuffer : Undecided rc d.bindings d.buffer)
    (hsettles : Settles rc d.bindings (d.buffer ++ [e]) (d.decision e))
    (h : Cuts rc (d.next e) events segments rest) :
    Cuts rc d (e :: events) (⟨d.buffer ++ [e], d.decision e⟩ :: segments) rest := by
  have hignore : d.decision e ≠ .ignore := hsettles.ne_ignore
  have he := mt (d.decision_eq_ignore_iff e).2 hignore
  have hnext := next_of_settled hignore hsettles.ne_retain
  have hlength : (d.next e).buffer.length = 0 := by simp [hnext, clear]
  have hkept : (d.decision e).outcome ≠ .ignored :=
    mt (Decision.outcome_eq_ignored_iff _).1 hignore
  refine ⟨?_, h.afterAll_eq, ?_, ?_⟩
  · have hcut := h.segmentation
    rw [hnext] at hcut
    rw [List.filter_cons_of_pos (by simpa using he), List.append_cons]
    let segment : Segment := ⟨d.buffer ++ [e], d.decision e⟩
    have hshortest : ∀ front, front <+: segment.events → front ≠ [] →
        ∀ v, Settles rc d.bindings front v → front = segment.events :=
      fun _ hfront hne _ hv => hbuffer.eq_concat hfront hne hv
    exact .cut (by simp [segment]) hsettles hshortest hcut
  · rw [List.map_cons, calls_event, h.calls_eq, List.filterMap_cons]
    cases (d.decision e).call? d.bindings <;> rfl
  · rw [List.flatMap_cons, List.append_assoc, ← h.outcomes_eq, hlength, List.map_cons,
      decisions_event, List.map_cons, List.filter_cons_of_pos (by simpa using hkept)]
    simp [Segment.outcomes]

end Cuts

section

variable {d : Dispatcher α} {t : Translator} (hbuilt : ∀ b ∈ d.bindings, b.expression.Built)

include hbuilt

/-- **A run makes a cut**, whatever the buffer that calls for nothing yet. -/
theorem exists_cuts (hreset : d.reset = Expression.reset rc t)
    (hbuffer : Undecided rc d.bindings d.buffer) (events : List Event) :
    ∃ segments rest, Cuts rc d events segments rest := by
  induction events generalizing d with
  | nil => exact ⟨[], d.buffer, .nil hbuffer⟩
  | cons e events ih =>
      by_cases he : e.transition = .repeated
      · have hnext := next_of_ignore ((d.decision_eq_ignore_iff e).2 he)
        obtain ⟨segments, rest, hcuts⟩ := ih (d := d.next e) hbuilt hreset (by rwa [hnext])
        exact ⟨segments, rest, hcuts.ignore he⟩
      rcases decision_settles hreset hbuilt hbuffer.not_mem_reset he with
        ⟨hretain, hnone⟩ | hsettles
      · have hundecided : Undecided rc d.bindings (d.next e).buffer := by
          rw [next_of_retain hretain]
          exact hbuffer.concat hnone
        obtain ⟨segments, rest, hcuts⟩ := ih (d := d.next e) hbuilt hreset hundecided
        exact ⟨segments, rest, hcuts.retain hretain⟩
      · have hundecided : Undecided rc d.bindings (d.next e).buffer := by
          rw [next_of_settled hsettles.ne_ignore hsettles.ne_retain]
          exact undecided_nil
        obtain ⟨segments, rest, hcuts⟩ := ih (d := d.next e) hbuilt hreset hundecided
        exact ⟨_, rest, hcuts.settle hbuffer hsettles⟩

omit hbuilt in
/-- There is an outcome for each event, and repeats are the ones that are ignored. -/
theorem forall₂_ignored (d : Dispatcher α) (events : List Event) :
    List.Forall₂ (fun e outcome => e.transition = .repeated ↔ outcome = .ignored) events
      ((d.decisions (events.map .event)).map Decision.outcome) := by
  induction events generalizing d with
  | nil => exact .nil
  | cons e events ih =>
      refine .cons ?_ (ih (d.next e))
      rw [Decision.outcome_eq_ignored_iff, d.decision_eq_ignore_iff]

/-- While there is a binding, no events at all call for nothing. -/
theorem not_settles_nil (hne : d.bindings ≠ []) (v : Decision) : ¬ Settles rc d.bindings [] v := by
  intro hv
  cases hv with
  | reset hlast => cases hlast
  | @fire i b _ hb haccept _ =>
      obtain ⟨t', literals, hmatches⟩ := (hbuilt b (List.mem_of_getElem? hb)).exists_matchesAs
      rw [hmatches.state_nil] at haccept
      cases haccept
  | flush _ hdead =>
      obtain ⟨b, hb⟩ := List.exists_mem_of_ne_nil _ hne
      obtain ⟨t', literals, hmatches⟩ := (hbuilt b hb).exists_matchesAs
      obtain ⟨later, -, haccept⟩ := hmatches.exists_accept_of_pending hmatches.state_nil
      exact hdead b hb later haccept

end

end Dispatcher

/-- **A run is the greedy segmentation of its events.** Take a new dispatcher, bind expressions, and
hand it any events. There is exactly one cut of the events, less the repeats, into segments and a
rest. Repeats are ignored; the events of a segment are retained up to the last, which has the
outcome of the segment's decision; and the rest is retained and makes up the buffer. The actions
that are called are those of the segments that fire, once for each and with the captures of just
its events. -/
theorem Dispatcher.run_eq_segmentation {σ ε : Type}
    (invoke : α → List String → StateM σ (Completion ε)) (message : ε → String) (rc : Code)
    (t : Translator) (bindings : List (Binding α)) (hbuilt : ∀ b ∈ bindings, b.expression.Built)
    (events : List Event) (s : σ) :
    let d := bindings.foldl bind (new (Expression.reset rc t))
    let result := (d.run invoke message (events.map .event)).run s
    let outcomes := result.1.1.map Prod.fst
    let kept := events.filter fun e => e.transition ≠ .repeated
    ∃ segments rest,
      Segmentation rc bindings kept segments rest ∧
      (∀ segments' rest', Segmentation rc bindings kept segments' rest' →
        segments' = segments ∧ rest' = rest) ∧
      segments.flatMap Segment.events ++ rest = kept ∧
      (bindings ≠ [] → ∀ v, ¬ Settles rc bindings [] v) ∧
      List.Forall₂ (fun e outcome => e.transition = .repeated ↔ outcome = .ignored)
        events outcomes ∧
      outcomes.filter (· ≠ .ignored) =
        segments.flatMap Segment.outcomes ++ List.replicate rest.length .retained ∧
      result.1.2.buffer = rest ∧
      result.2 = invokeAll invoke
        (segments.filterMap fun segment => segment.decision.call? bindings) s := by
  intro d result outcomes kept
  have hd : d = ⟨Expression.reset rc t, bindings, []⟩ := by
    simp only [d, foldl_bind, new, List.nil_append]
  have hreset : d.reset = Expression.reset rc t := by rw [hd]
  have hbindings : d.bindings = bindings := by rw [hd]
  have hbuffer : d.buffer = [] := by rw [hd]
  rw [← hbindings] at hbuilt ⊢
  obtain ⟨hafterAll, hanswers, hworld⟩ := d.run_spec invoke message (events.map .event) s
  have houtcomes : outcomes = (d.decisions (events.map .event)).map Decision.outcome := hanswers
  obtain ⟨segments, rest, hcut, hafter, hcalls, hsegments⟩ :=
    exists_cuts hbuilt hreset (hbuffer ▸ undecided_nil) events
  rw [hbuffer, List.nil_append] at hcut
  rw [hbuffer, List.length_nil, List.replicate_zero, List.nil_append] at hsegments
  refine ⟨segments, rest, hcut, fun _ _ hcut' => hcut'.unique hcut, hcut.flatMap_events,
    not_settles_nil hbuilt, ?_, ?_, ?_, ?_⟩
  · rw [houtcomes]
    exact d.forall₂_ignored events
  · rw [houtcomes]
    exact hsegments
  · exact congrArg buffer (hafterAll.trans hafter)
  · exact hworld.trans (congrArg (invokeAll invoke · s) hcalls)

/-- One binding, whose action writes its captures down, and events with a repeat and a release among
them; the last is the reset key, which is 1. -/
theorem Dispatcher.run_eq_segmentation_two_wildcards :
    let bindings : List (Binding Unit) := [⟨⟨"*<Enter>*", row 28 [.wildcard, .button 28, .wildcard],
      28, Namespace.keyboard.translator⟩, ()⟩]
    let record (_ : Unit) (captures : List String) :
        StateM (List (List String)) (Completion String) :=
      fun written => (.done, written ++ [captures])
    let events : List Event := [.press 30, ⟨30, .repeated⟩, .press 28, .press 28, .press 48,
      .press 28, .release 28, .press 1]
    (∀ b ∈ bindings, b.expression.Built) ∧
    ∃ segments rest,
      Segmentation 1 bindings (events.filter fun e => e.transition ≠ .repeated) segments rest ∧
      invokeAll record (segments.filterMap fun segment => segment.decision.call? bindings) [] =
        [["a", "b"]] ∧
      rest = [] := by
  intro bindings record events
  have hbuilt : ∀ b ∈ bindings, b.expression.Built := by
    intro b hb
    obtain rfl := List.mem_singleton.1 hb
    exact .ofText Expression.ofText_two_wildcards
  have hcalls : (((bindings.foldl bind
      (new (Expression.reset 1 Namespace.keyboard.translator))).run
        record id (events.map .event)).run []).2 = [["a", "b"]] := by
    decide +kernel
  have hbuffer : (((bindings.foldl bind
      (new (Expression.reset 1 Namespace.keyboard.translator))).run
        record id (events.map .event)).run []).1.2.buffer = [] := by
    decide +kernel
  obtain ⟨segments, rest, hcut, -, -, -, -, -, hrest, hworld⟩ :=
    run_eq_segmentation record id 1 Namespace.keyboard.translator bindings hbuilt events []
  exact ⟨hbuilt, segments, rest, hcut, hworld.symm.trans hcalls, hrest.symm.trans hbuffer⟩

end KeyChord
