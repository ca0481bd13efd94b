import KeyChord.Proofs.Dispatch.Decision
import KeyChord.Proofs.Dispatch.Run

/-!
# Invocations of actions

A dispatcher touches the world only by invoking the action of a binding that fires, in the middle of
taking an event. Here a run is told as the invocations that it makes: for which binding, on which
captures, on which world, and what came of it. Two dispatchers that differ in nothing but their
actions decide alike for ever, as no decision depends on what an action did.

* `Invocation`: one invocation, with the world before and after it.
* `Invokes invoke d s events invocations s'`: the events make these invocations and no others.
* `exists_invokes`: every run is told in this way, its complaints included.
* `Invokes.spec_of_mem`: what every single invocation is.
* `SameRules`: two dispatchers that differ in their actions only; `SameRules.decisions_eq`.
-/

namespace KeyChord

open Key Pattern

/-- One invocation of an action. -/
structure Invocation (α σ ε : Type) where
  /-- The index of the binding that fired. -/
  index : Nat
  binding : Binding α
  captures : List String
  /-- The world that the action found. -/
  before : σ
  completion : Completion ε
  /-- The world that it left. -/
  after : σ

/-- What the dispatcher complains about after an invocation. -/
def Invocation.complaint? {α σ ε : Type} (message : ε → String) (v : Invocation α σ ε) :
    Option String :=
  Dispatcher.complaint? message v.binding.expression.pattern v.completion

/-- The index of the binding that fired, if one did. -/
def Outcome.index? : Outcome → Option Nat
  | .fired i => some i
  | _ => none

theorem Decision.exists_eq_fire {v : Decision} {i : Nat} (h : v.outcome.index? = some i) :
    ∃ captures, v = .fire i captures := by
  cases v with
  | fire i' captures =>
      cases h
      exact ⟨captures, rfl⟩
  | ignore => cases h
  | reset => cases h
  | retain => cases h
  | flush => cases h

namespace Dispatcher

variable {α α' σ σ' ε ε' : Type}

/-! ## Complaints -/

theorem complaint?_eq_none_iff {message : ε → String} {pattern : String}
    {completion : Completion ε} : complaint? message pattern completion = none ↔
      completion = .done := by
  cases completion <;> simp [complaint?]

/-- A complaint begins with the pattern of the binding. -/
theorem exists_append_of_complaint? {message : ε → String} {pattern text : String}
    {completion : Completion ε} (h : complaint? message pattern completion = some text) :
    ∃ reason, text = "Handler for '" ++ pattern ++ "'" ++ reason := by
  cases completion with
  | done => cases h
  | failed error =>
      cases h
      refine ⟨" failed: " ++ message error, ?_⟩
      simp only [String.append_assoc]
      rfl
  | crashed said =>
      cases h
      refine ⟨" panicked: " ++ said.getD "Unknown panic payload", ?_⟩
      simp only [String.append_assoc]
      rfl

/-! ## What a run invokes -/

/-- Taking the events one after another, the dispatcher makes these invocations, and no others: one
for each event that fires a binding, of its action, on the captures of the buffer with that event,
and in the world that the invocations before it have left. -/
inductive Invokes (invoke : α → List String → StateM σ (Completion ε)) :
    Dispatcher α → σ → List Event → List (Invocation α σ ε) → σ → Prop
  | nil (d : Dispatcher α) (s : σ) : Invokes invoke d s [] [] s
  | fired {d : Dispatcher α} {s after last : σ} {e : Event} {events : List Event} {i : Nat}
      {b : Binding α} {captures : List String} {completion : Completion ε}
      {later : List (Invocation α σ ε)} (houtcome : (d.decision e).outcome = .fired i)
      (hb : d.bindings[i]? = some b)
      (hcaptures : b.expression.process (d.buffer ++ [e]) = ⟨.accept, captures⟩)
      (hcall : (invoke b.action captures).run s = (completion, after))
      (hlater : Invokes invoke (d.next e) after events later last) :
      Invokes invoke d s (e :: events) (⟨i, b, captures, s, completion, after⟩ :: later) last
  | quiet {d : Dispatcher α} {s last : σ} {e : Event} {events : List Event}
      {later : List (Invocation α σ ε)} (houtcome : (d.decision e).outcome.index? = none)
      (hlater : Invokes invoke (d.next e) s events later last) :
      Invokes invoke d s (e :: events) later last

section

variable {invoke : α → List String → StateM σ (Completion ε)}

/-- A decision that fires a binding fires the one at its index, on the captures that it makes. -/
theorem exists_binding_of_fire {d : Dispatcher α} {e : Event} {i : Nat} {captures : List String}
    (h : d.decision e = .fire i captures) :
    ∃ b, d.bindings[i]? = some b ∧
      b.expression.process (d.buffer ++ [e]) = ⟨.accept, captures⟩ := by
  have he : e.transition ≠ .repeated := by
    intro hrepeated
    rw [(d.decision_eq_ignore_iff e).2 hrepeated] at h
    cases h
  have hjudged := judged_decision (d := d) he
  rw [h] at hjudged
  cases hjudged with
  | @fire _ b _ hb haccept _ => exact ⟨b, hb, by rw [← haccept]⟩

theorem run_perform_fire (message : ε → String) {d : Dispatcher α} {s after : σ} {i : Nat}
    {b : Binding α} {captures : List String} {completion : Completion ε}
    (hb : d.bindings[i]? = some b)
    (hcall : (invoke b.action captures).run s = (completion, after)) :
    (d.perform invoke message (.fire i captures)).run s =
      (complaint? message b.expression.pattern completion, after) := by
  simp only [perform, hb, StateT.run_bind, hcall]
  rfl

theorem run_perform_quiet (message : ε → String) (d : Dispatcher α) {v : Decision}
    (h : v.outcome.index? = none) (s : σ) :
    (d.perform invoke message v).run s = (none, s) := by
  cases v with
  | fire i captures => cases h
  | ignore => rfl
  | reset => rfl
  | retain => rfl
  | flush => rfl

/-- A run over events takes the first event, and then the others. -/
theorem run_event_cons {message : ε → String} {d d' : Dispatcher α} {s after last : σ} {e : Event}
    {ops : List (Operation α)} {complaint : Option String}
    {answers : List (Outcome × Option String)}
    (hfirst : (d.perform invoke message (d.decision e)).run s = (complaint, after))
    (hrest : ((d.next e).run invoke message ops).run after = ((answers, d'), last)) :
    (d.run invoke message (.event e :: ops)).run s =
      ((((d.decision e).outcome, complaint) :: answers, d'), last) := by
  have hrun : (d.run invoke message (.event e :: ops)).run s =
      let first := (d.perform invoke message (d.decision e)).run s
      let rest := ((d.next e).run invoke message ops).run first.2
      ((((d.decision e).outcome, first.1) :: rest.1.1, rest.1.2), rest.2) := rfl
  rw [hrun, hfirst]
  dsimp only
  rw [hrest]

/-- **Every run is told by its invocations.** They lead from the world before it to the world after
it, they are made for the bindings that fired, and they are what is complained about, in order. -/
theorem exists_invokes (invoke : α → List String → StateM σ (Completion ε))
    (message : ε → String) (d : Dispatcher α) (s : σ) (events : List Event) :
    ∃ invocations, Invokes invoke d s events invocations
        ((d.run invoke message (events.map .event)).run s).2 ∧
      ((d.run invoke message (events.map .event)).run s).1.1.filterMap (fun a => a.1.index?) =
        invocations.map (·.index) ∧
      ((d.run invoke message (events.map .event)).run s).1.1.filterMap Prod.snd =
        invocations.filterMap (·.complaint? message) := by
  induction events generalizing d s with
  | nil => exact ⟨[], .nil d s, rfl, rfl⟩
  | cons e events ih =>
      rw [List.map_cons]
      cases hindex : (d.decision e).outcome.index? with
      | none =>
          obtain ⟨later, hlater, hindices, hcomplaints⟩ := ih (d.next e) s
          rcases hrest : ((d.next e).run invoke message (events.map .event)).run s with
            ⟨⟨answers, d'⟩, last⟩
          rw [hrest] at hlater hindices hcomplaints
          rw [run_event_cons (run_perform_quiet message d hindex s) hrest]
          refine ⟨later, .quiet hindex hlater, ?_, hcomplaints⟩
          rwa [List.filterMap_cons_none (by exact hindex)]
      | some i =>
          obtain ⟨captures, hfire⟩ := Decision.exists_eq_fire hindex
          obtain ⟨b, hb, hcaptures⟩ := exists_binding_of_fire hfire
          rcases hcall : (invoke b.action captures).run s with ⟨completion, after⟩
          obtain ⟨later, hlater, hindices, hcomplaints⟩ := ih (d.next e) after
          rcases hrest : ((d.next e).run invoke message (events.map .event)).run after with
            ⟨⟨answers, d'⟩, last⟩
          rw [hrest] at hlater hindices hcomplaints
          have hfirst := run_perform_fire message hb hcall
          rw [← hfire] at hfirst
          rw [run_event_cons hfirst hrest]
          refine ⟨_, .fired (by rw [hfire]; rfl) hb hcaptures hcall hlater, ?_, ?_⟩
          · rw [List.filterMap_cons_some (by exact hindex), List.map_cons, hindices]
          · simp only [List.filterMap_cons, hcomplaints]
            rfl

/-- **What a single invocation is**: the binding is the one at its index, it accepts a buffer, the
captures are those that it makes of this buffer, and the action is run on them once. -/
theorem Invokes.spec_of_mem {d : Dispatcher α} {s last : σ} {events : List Event}
    {invocations : List (Invocation α σ ε)} (h : Invokes invoke d s events invocations last)
    {v : Invocation α σ ε} (hv : v ∈ invocations) :
    d.bindings[v.index]? = some v.binding ∧
      (∃ buffer, v.binding.expression.process buffer = ⟨.accept, v.captures⟩) ∧
      (invoke v.binding.action v.captures).run v.before = (v.completion, v.after) := by
  induction h with
  | nil d s => cases hv
  | @fired d _ _ _ e _ i b captures completion _ _ hb hcaptures hcall _ ih =>
      rcases List.mem_cons.1 hv with rfl | hv
      · exact ⟨hb, ⟨_, hcaptures⟩, hcall⟩
      · exact ih hv
  | quiet _ _ ih => exact ih hv

end

/-! ## Two dispatchers with the same rules -/

/-- Two dispatchers differ in nothing but their actions. -/
structure SameRules (d : Dispatcher α) (d' : Dispatcher α') : Prop where
  reset_eq : d.reset = d'.reset
  expressions_eq : d.bindings.map (·.expression) = d'.bindings.map (·.expression)
  buffer_eq : d.buffer = d'.buffer

namespace SameRules

variable {d : Dispatcher α} {d' : Dispatcher α'}

/-- What the bindings make of a buffer depends on their expressions alone. -/
theorem verdicts_eq (h : SameRules d d') (buffer : List Event) :
    d.verdicts buffer = d'.verdicts buffer := by
  have hmap := congrArg (List.map fun x => x.process buffer) h.expressions_eq
  rwa [List.map_map, List.map_map] at hmap

theorem decision_eq (h : SameRules d d') (e : Event) : d.decision e = d'.decision e := by
  simp only [decision, judge, h.reset_eq, h.buffer_eq, h.verdicts_eq]

theorem next (h : SameRules d d') (e : Event) : SameRules (d.next e) (d'.next e) where
  reset_eq := h.reset_eq
  expressions_eq := h.expressions_eq
  buffer_eq := by
    show d.bufferAfter e (d.decision e) = d'.bufferAfter e (d'.decision e)
    rw [h.decision_eq e]
    cases d'.decision e <;> simp only [bufferAfter, h.buffer_eq]

theorem afterAll (h : SameRules d d') (events : List Event) :
    SameRules (d.afterAll (events.map .event)) (d'.afterAll (events.map .event)) := by
  induction events generalizing d d' with
  | nil => exact h
  | cons e events ih => exact ih (h.next e)

/-- **They decide alike for ever.** -/
theorem decisions_eq (h : SameRules d d') (events : List Event) :
    d.decisions (events.map .event) = d'.decisions (events.map .event) := by
  induction events generalizing d d' with
  | nil => rfl
  | cons e events ih =>
      rw [List.map_cons, List.map_cons, decisions_event, decisions_event, h.decision_eq e,
        ih (h.next e)]

end SameRules

end Dispatcher

end KeyChord
