import KeyChord.Proofs.Dispatch.Decision
import KeyChord.Proofs.Dispatch.Run
import KeyChord.Proofs.Pattern.Row

/-!
# The order of registration only breaks ties

Two dispatchers with the same bindings in different orders are handed the same events. Which binding
fires may differ, if several accept at once, but not whether one fires; and as a binding that fires
uses the whole buffer up, whichever it is, the two buffers stay equal.

* `Outcome.Tied`: outcomes that differ at most in which of the accepting bindings fires.
* `Dispatcher.Reordered`: what two such dispatchers have in common between events.
* `Reordered.tied_decision`, `Reordered.next`: an event is answered alike, and they stay so.
* `run_order_breaks_ties`: the same for every event of a run.
-/

namespace KeyChord

open Key Pattern

variable {α : Type}

/-- The binding's expression accepts the events. -/
def Binding.Accepts (events : List Event) (b : Binding α) : Prop :=
  (b.expression.process events).state = .accept

instance (events : List Event) (b : Binding α) : Decidable (b.Accepts events) :=
  inferInstanceAs (Decidable ((b.expression.process events).state = .accept))

/-- Of the bindings that accept the events, the one at this index comes first. -/
def FirstToAccept (bindings : List (Binding α)) (events : List Event) (i : Nat) : Prop :=
  (∃ b, bindings[i]? = some b ∧ b.Accepts events) ∧
    ∀ j < i, ∀ b, bindings[j]? = some b → ¬ b.Accepts events

/-- The outcomes are of one kind. If bindings fire, the same ones accept the events on both sides,
and each side fires the one that comes first in its own order. -/
inductive Outcome.Tied (bindings bindings' : List (Binding α)) (events : List Event) :
    Outcome → Outcome → Prop
  | ignored : Tied bindings bindings' events .ignored .ignored
  | reset : Tied bindings bindings' events .reset .reset
  | fired {i j : Nat}
      (haccepting : (bindings.filter fun b => b.Accepts events).Perm
        (bindings'.filter fun b => b.Accepts events))
      (hfirst : FirstToAccept bindings events i) (hfirst' : FirstToAccept bindings' events j) :
      Tied bindings bindings' events (.fired i) (.fired j)
  | retained : Tied bindings bindings' events .retained .retained
  | flushed : Tied bindings bindings' events .flushed .flushed

namespace Dispatcher

variable {d d' : Dispatcher α}

/-- The buffer afterwards depends on the kind of the outcome alone. -/
theorem buffer_next (d : Dispatcher α) (e : Event) :
    (d.next e).buffer =
      match (d.decision e).outcome with
      | .ignored => d.buffer
      | .retained => d.buffer ++ [e]
      | _ => [] := by
  unfold next
  cases d.decision e <;> rfl

/-- **Decisions about one buffer are tied** if only the order of the bindings differs: each of them
says which bindings accept, or that none does. -/
theorem Judged.tied (hreset : d.reset = d'.reset) (hperm : d.bindings.Perm d'.bindings)
    {buffer : List Event} {v v' : Decision} (h : Judged d buffer v) (h' : Judged d' buffer v') :
    Outcome.Tied d.bindings d'.bindings buffer v.outcome v'.outcome := by
  cases h with
  | reset haccept =>
      rw [hreset] at haccept
      cases h' with
      | reset _ => exact .reset
      | fire hnot _ _ _ => exact absurd haccept hnot
      | retain hnot _ _ _ => exact absurd haccept hnot
      | flush hnot _ => exact absurd haccept hnot
  | fire hnot hb haccept hfirst =>
      rw [hreset] at hnot
      have hmem := hperm.subset (List.mem_of_getElem? hb)
      cases h' with
      | reset haccept' => exact absurd haccept' hnot
      | fire _ hb' haccept' hfirst' =>
          exact .fired (hperm.filter _) ⟨⟨_, hb, haccept⟩, hfirst⟩ ⟨⟨_, hb', haccept'⟩, hfirst'⟩
      | retain _ hnone _ _ => exact absurd haccept (hnone _ hmem)
      | flush _ hall =>
          rw [hall _ hmem] at haccept
          cases haccept
  | retain hnot hnone hb hpending =>
      rw [hreset] at hnot
      have hmem := hperm.subset hb
      cases h' with
      | reset haccept' => exact absurd haccept' hnot
      | fire _ hb' haccept' _ =>
          exact absurd haccept' (hnone _ (hperm.symm.subset (List.mem_of_getElem? hb')))
      | retain _ _ _ _ => exact .retained
      | flush _ hall =>
          rw [hall _ hmem] at hpending
          cases hpending
  | flush hnot hall =>
      rw [hreset] at hnot
      cases h' with
      | reset haccept' => exact absurd haccept' hnot
      | fire _ hb' haccept' _ =>
          rw [hall _ (hperm.symm.subset (List.mem_of_getElem? hb'))] at haccept'
          cases haccept'
      | retain _ _ hb' hpending' =>
          rw [hall _ (hperm.symm.subset hb')] at hpending'
          cases hpending'
      | flush _ _ => exact .flushed

/-- What two dispatchers have in common if only the order of their bindings differs. -/
structure Reordered (d d' : Dispatcher α) : Prop where
  reset_eq : d.reset = d'.reset
  bindings_perm : d.bindings.Perm d'.bindings
  buffer_eq : d.buffer = d'.buffer

namespace Reordered

/-- An event is answered alike on both sides. -/
theorem tied_decision (h : Reordered d d') (e : Event) :
    Outcome.Tied d.bindings d'.bindings (d.buffer ++ [e]) (d.decision e).outcome
      (d'.decision e).outcome := by
  by_cases he : e.transition = .repeated
  · rw [(d.decision_eq_ignore_iff e).2 he, (d'.decision_eq_ignore_iff e).2 he]
    exact .ignored
  · have hjudged := judged_decision (d := d) he
    have hjudged' := judged_decision (d := d') he
    rw [← h.buffer_eq] at hjudged'
    exact hjudged.tied h.reset_eq h.bindings_perm hjudged'

/-- The two buffers stay equal. -/
theorem next (h : Reordered d d') (e : Event) : Reordered (d.next e) (d'.next e) where
  reset_eq := h.reset_eq
  bindings_perm := h.bindings_perm
  buffer_eq := by
    have htied := h.tied_decision e
    rw [buffer_next, buffer_next, ← h.buffer_eq]
    generalize (d.decision e).outcome = o at htied ⊢
    generalize (d'.decision e).outcome = o' at htied ⊢
    cases htied <;> rfl

theorem afterAll (h : Reordered d d') (events : List Event) :
    Reordered (d.afterAll (events.map .event)) (d'.afterAll (events.map .event)) := by
  induction events generalizing d d' with
  | nil => exact h
  | cons e events ih => exact ih (h.next e)

end Reordered

/-- **The order of registration only breaks ties.** Give two new dispatchers the same bindings in
different orders, and then the same events. After any number of events their buffers are equal, and
each event has the same kind of outcome in both runs; if a binding fires, then the same bindings
accept in both, and each dispatcher fires the first of them in its own order. What the actions do,
and to which world, does not matter. -/
theorem run_order_breaks_ties {σ ε : Type} (invoke : α → List String → StateM σ (Completion ε))
    (message : ε → String) (reset : Expression) {bindings bindings' : List (Binding α)}
    (hperm : bindings.Perm bindings') (events : List Event) (s s' : σ) :
    let result (events : List Event) :=
      ((bindings.foldl bind (new reset)).run invoke message (events.map .event)).run s
    let result' (events : List Event) :=
      ((bindings'.foldl bind (new reset)).run invoke message (events.map .event)).run s'
    (result events).1.2.buffer = (result' events).1.2.buffer ∧
    ∀ front e later, events = front ++ e :: later →
      ∃ buffer o o', (result front).1.2.buffer = buffer ∧ (result' front).1.2.buffer = buffer ∧
        ((result events).1.1.map Prod.fst)[front.length]? = some o ∧
        ((result' events).1.1.map Prod.fst)[front.length]? = some o' ∧
        Outcome.Tied bindings bindings' (buffer ++ [e]) o o' := by
  intro result result'
  let d := bindings.foldl bind (new reset)
  let d' := bindings'.foldl bind (new reset)
  have hd : d = ⟨reset, bindings, []⟩ := by simp only [d, foldl_bind, new, List.nil_append]
  have hd' : d' = ⟨reset, bindings', []⟩ := by simp only [d', foldl_bind, new, List.nil_append]
  have hstart : Reordered d d' := by
    rw [hd, hd']
    exact ⟨rfl, hperm, rfl⟩
  have hafter (events : List Event) : (result events).1.2 = d.afterAll (events.map .event) :=
    (d.run_spec invoke message (events.map .event) s).1
  have hafter' (events : List Event) : (result' events).1.2 = d'.afterAll (events.map .event) :=
    (d'.run_spec invoke message (events.map .event) s').1
  have hbuffers (events : List Event) :
      (result events).1.2.buffer = (result' events).1.2.buffer := by
    rw [hafter, hafter']
    exact (hstart.afterAll events).buffer_eq
  refine ⟨hbuffers events, ?_⟩
  rintro front e later rfl
  have htied := (hstart.afterAll front).tied_decision e
  have hbindings : (d.afterAll (front.map .event)).bindings = bindings := by
    rw [bindings_afterAll_events, hd]
  have hbindings' : (d'.afterAll (front.map .event)).bindings = bindings' := by
    rw [bindings_afterAll_events, hd']
  have hbuffer : (d.afterAll (front.map .event)).buffer = (result front).1.2.buffer := by
    rw [hafter]
  rw [hbindings, hbindings', hbuffer] at htied
  exact ⟨_, _, _, rfl, (hbuffers front).symm,
    d.getElem?_outcomes_event invoke message front e later s,
    d'.getElem?_outcomes_event invoke message front e later s', htied⟩

/-- Two bindings that accept the same two presses. Either order fires the first of its bindings, of
index 0, and so another action. The reset key is 1. -/
theorem run_order_breaks_ties_two_bindings :
    let t := Namespace.keyboard.translator
    let any : Binding String := ⟨⟨"*", row 28 [.wildcard], 28, t⟩, "any"⟩
    let keys : Binding String := ⟨⟨"a<Enter>", row 28 [.button 30, .button 28], 28, t⟩, "keys"⟩
    let record (name : String) (captures : List String) :
        StateM (List (String × List String)) (Completion String) :=
      fun written => (.done, written ++ [(name, captures)])
    let events : List Event := [.press 30, .press 28, .press 30]
    let result :=
      (([any, keys].foldl bind (new (.reset 1 t))).run record id (events.map .event)).run []
    let result' :=
      (([keys, any].foldl bind (new (.reset 1 t))).run record id (events.map .event)).run []
    [any, keys].Perm [keys, any] ∧
    Outcome.Tied [any, keys] [keys, any] [.press 30, .press 28] (.fired 0) (.fired 0) ∧
    result.1.2.buffer = [.press 30] ∧ result'.1.2.buffer = [.press 30] ∧
    result.2 = [("any", ["a"])] ∧ result'.2 = [("keys", [])] := by
  intro t any keys record events result result'
  have hperm : [any, keys].Perm [keys, any] := .swap keys any []
  obtain ⟨-, hties⟩ := run_order_breaks_ties record id (.reset 1 t) hperm events [] []
  obtain ⟨buffer, o, o', hbuffer, -, ho, ho', htied⟩ :=
    hties [.press 30] (.press 28) [.press 30] rfl
  have hbuffer : buffer = [.press 30] := by
    rw [← hbuffer]
    decide +kernel
  have ho : some o = some (.fired 0) := by
    rw [← ho]
    decide +kernel
  have ho' : some o' = some (.fired 0) := by
    rw [← ho']
    decide +kernel
  rw [hbuffer, Option.some.inj ho, Option.some.inj ho'] at htied
  exact ⟨hperm, htied, by decide +kernel, by decide +kernel, by decide +kernel, by decide +kernel⟩

end Dispatcher

end KeyChord
