import KeyChord.Proofs.Dispatch.Reset
import KeyChord.Proofs.Pattern.Noise

/-!
# Releases and repeats change nothing

Two dispatchers are run over the same operations, but one of them is spared some of the events that
are no presses. Their buffers then differ, and one may be empty where the other is not; what stays
the same is which presses are in them. That is enough: a verdict at a press depends on the presses
alone, and an event that is no press never uses presses up.

* `Thinned ops ops'`: `ops'` are the operations `ops` without some events that are no presses.
* `Dispatcher.Alike`: what two such runs have in common between operations.
* `Alike.press`, `Alike.noise`: a press gets the same decision on both sides, and noise on one side
  alone is not noticed.
* `run_thinned`: the same outcomes for the presses, and the same calls.
-/

namespace KeyChord

open Key Pattern

variable {α : Type}

/-! ## Operations without some of the noise -/

/-- The event that an operation hands over, if it is one. -/
def Operation.event? : Operation α → Option Event
  | .event e => some e
  | _ => none

/-- The events among operations, in order. -/
def eventsOf (ops : List (Operation α)) : List Event :=
  ops.filterMap Operation.event?

/-- Operations, and the same without some of the events that are no presses. -/
inductive Thinned : List (Operation α) → List (Operation α) → Prop
  | nil : Thinned [] []
  | keep {ops ops' : List (Operation α)} (op : Operation α) (h : Thinned ops ops') :
      Thinned (op :: ops) (op :: ops')
  | drop {ops ops' : List (Operation α)} {e : Event} (he : e.isPress = false)
      (h : Thinned ops ops') : Thinned (.event e :: ops) ops'

/-- What is bound in the thinned operations is bound in the others. -/
theorem Thinned.bind_mem {ops ops' : List (Operation α)} (h : Thinned ops ops') {b : Binding α}
    (hb : .bind b ∈ ops') : .bind b ∈ ops := by
  induction h with
  | nil => exact hb
  | keep op _ ih =>
      rcases List.mem_cons.1 hb with rfl | hb
      · exact List.mem_cons_self
      · exact List.mem_cons_of_mem op (ih hb)
  | drop _ _ ih => exact List.mem_cons_of_mem _ (ih hb)

/-- The presses among the events of operations, each with what was answered to it. -/
def atPresses {β : Type} (ops : List (Operation α)) (answers : List β) : List (Event × β) :=
  ((eventsOf ops).zip answers).filter fun a => a.1.isPress

theorem atPresses_noise {β : Type} {e : Event} (he : e.isPress = false) (ops : List (Operation α))
    (answer : β) (answers : List β) :
    atPresses (.event e :: ops) (answer :: answers) = atPresses ops answers :=
  List.filter_cons_of_neg (by simpa using he)

theorem atPresses_map {β γ : Type} (f : β → γ) (ops : List (Operation α)) (answers : List β) :
    atPresses ops (answers.map f) = (atPresses ops answers).map (Prod.map id f) := by
  rw [atPresses, List.zip_map_right, List.filter_map]
  rfl

namespace Dispatcher

/-! ## What is no press -/

/-- What is no press is ignored, kept, or flushed by itself: no press is lost with it. -/
theorem Coherent.decision_noise {rc : Code} {d : Dispatcher α} (h : Coherent rc d)
    (hbuilt : ∀ b ∈ d.bindings, b.expression.Built) {e : Event} (he : e.isPress = false) :
    d.decision e = .ignore ∨ d.decision e = .retain ∨ d.decision e = .flush ∧ d.buffer = [] := by
  by_cases hrepeat : e.transition = .repeated
  · exact Or.inl ((d.decision_eq_ignore_iff e).2 hrepeat)
  have hjudged := judged_decision (d := d) hrepeat
  generalize d.decision e = v at hjudged
  cases hjudged with
  | reset haccept =>
      rw [(h.reset_accept_iff e).1 haccept] at he
      cases he
  | fire _ hb haccept _ =>
      have hx := hbuilt _ (List.mem_of_getElem? hb)
      exact absurd haccept (hx.not_accept_concat_noise d.buffer he)
  | retain _ _ _ _ => exact Or.inr (Or.inl rfl)
  | flush _ hall =>
      refine Or.inr (Or.inr ⟨rfl, ?_⟩)
      -- whatever waits on the buffer goes on waiting, so nothing is thrown away
      by_contra hne
      obtain ⟨b, hb, hpending⟩ := h.awaited hne
      have hstill := (hbuilt b hb).pending_concat_noise he hpending
      rw [hall b hb] at hstill
      cases hstill

/-- What is no press leaves the presses in the buffer as they are. -/
theorem Coherent.presses_next_noise {rc : Code} {d : Dispatcher α} (h : Coherent rc d)
    (hbuilt : ∀ b ∈ d.bindings, b.expression.Built) {e : Event} (he : e.isPress = false) :
    presses (d.next e).buffer = presses d.buffer := by
  rcases h.decision_noise hbuilt he with hignore | hretain | ⟨hflush, hnil⟩
  · rw [next_of_ignore hignore]
  · rw [next_of_retain hretain]
    simp [presses, he]
  · rw [next_of_settled (by simp [hflush]) (by simp [hflush]), hnil]
    rfl

/-! ## Two runs -/

/-- What two runs with the same reset key have in common if one is spared some noise. -/
structure Alike (rc : Code) (d d' : Dispatcher α) : Prop where
  left : Coherent rc d
  right : Coherent rc d'
  built : ∀ b ∈ d.bindings, b.expression.Built
  reset_eq : d.reset = d'.reset
  bindings_eq : d.bindings = d'.bindings
  presses_eq : presses d.buffer = presses d'.buffer

namespace Alike

variable {rc : Code} {d d' : Dispatcher α}

theorem new (rc : Code) (t : Translator) :
    Alike rc (new (α := α) (.reset rc t)) (Dispatcher.new (.reset rc t)) where
  left := .new rc t
  right := .new rc t
  built := by simp [Dispatcher.new]
  reset_eq := rfl
  bindings_eq := rfl
  presses_eq := rfl

theorem symm (h : Alike rc d d') : Alike rc d' d where
  left := h.right
  right := h.left
  built := h.bindings_eq ▸ h.built
  reset_eq := h.reset_eq.symm
  bindings_eq := h.bindings_eq.symm
  presses_eq := h.presses_eq.symm

theorem bind (h : Alike rc d d') {b : Binding α} (hb : b.expression.Built) :
    Alike rc (d.bind b) (d'.bind b) where
  left := h.left.bind b
  right := h.right.bind b
  built := List.forall_mem_append.2 ⟨h.built, List.forall_mem_singleton.2 hb⟩
  reset_eq := h.reset_eq
  bindings_eq := congrArg (· ++ [b]) h.bindings_eq
  presses_eq := h.presses_eq

theorem clear (h : Alike rc d d') : Alike rc d.clear d'.clear where
  left := h.left.clear
  right := h.right.clear
  built := h.built
  reset_eq := h.reset_eq
  bindings_eq := h.bindings_eq
  presses_eq := rfl

/-- Noise on one side is not noticed. -/
theorem noise (h : Alike rc d d') {e : Event} (he : e.isPress = false) :
    Alike rc (d.next e) d' where
  left := h.left.next e
  right := h.right
  built := h.built
  reset_eq := h.reset_eq
  bindings_eq := h.bindings_eq
  presses_eq := (h.left.presses_next_noise h.built he).trans h.presses_eq

/-- A press after the same presses gets the same verdicts. -/
theorem process_eq (h : Alike rc d d') {x : Expression} (hx : x.Built) (c : Code) :
    x.process (d.buffer ++ [.press c]) = x.process (d'.buffer ++ [.press c]) := by
  rw [hx.process_concat_press, h.presses_eq, ← hx.process_concat_press]

/-- **A press gets the same decision on both sides.** -/
theorem decision_press (h : Alike rc d d') (c : Code) :
    d.decision (.press c) = d'.decision (.press c) := by
  have hreset : d.reset.process (d.buffer ++ [.press c]) =
      d'.reset.process (d'.buffer ++ [.press c]) := by
    obtain ⟨t, ht⟩ := h.left.reset_eq
    rw [← h.reset_eq, ht]
    exact h.process_eq (.reset rc t) c
  have hverdicts : d.verdicts (d.buffer ++ [.press c]) =
      d'.verdicts (d'.buffer ++ [.press c]) := by
    rw [verdicts, verdicts, ← h.bindings_eq]
    exact List.map_congr_left fun b hb => h.process_eq (h.built b hb) c
  rw [decision, decision, if_neg (by simp [Event.press]), if_neg (by simp [Event.press]), judge,
    judge, hreset, hverdicts]

/-- The two sides stay alike at a press. -/
theorem press (h : Alike rc d d') (c : Code) :
    Alike rc (d.next (.press c)) (d'.next (.press c)) where
  left := h.left.next _
  right := h.right.next _
  built := h.built
  reset_eq := h.reset_eq
  bindings_eq := h.bindings_eq
  presses_eq := by
    by_cases hretain : d.decision (.press c) = .retain
    · rw [next_of_retain hretain, next_of_retain ((h.decision_press c).symm.trans hretain)]
      have hpresses := h.presses_eq
      simp only [presses] at hpresses
      simp [presses, hpresses]
    · have hignore : d.decision (.press c) ≠ .ignore :=
        mt (d.decision_eq_ignore_iff _).1 (by simp [Event.press])
      rw [next_of_settled hignore hretain,
        next_of_settled (h.decision_press c ▸ hignore) (h.decision_press c ▸ hretain)]
      rfl

/-- The two sides stay alike at an operation that both are given. -/
theorem after (h : Alike rc d d') (op : Operation α)
    (hop : ∀ b, op = .bind b → b.expression.Built) : Alike rc (d.after op) (d'.after op) := by
  cases op with
  | event e =>
      rcases e.eq_press_or_not with ⟨c, rfl⟩ | he
      · exact h.press c
      · exact ((h.noise he).symm.noise he).symm
  | bind b => exact h.bind (hop b rfl)
  | clear => exact h.clear

end Alike

/-! ## Whole runs -/

section

variable {d : Dispatcher α}

/-- There is a decision for each event. -/
theorem length_decisions (d : Dispatcher α) (ops : List (Operation α)) :
    (d.decisions ops).length = (eventsOf ops).length := by
  induction ops generalizing d with
  | nil => rfl
  | cons op ops ih =>
      cases op with
      | event e => exact congrArg (· + 1) (ih (d.next e))
      | bind b => exact ih (d.bind b)
      | clear => exact ih d.clear

/-- What is no press makes no call. -/
theorem Coherent.calls_noise {rc : Code} (h : Coherent rc d)
    (hbuilt : ∀ b ∈ d.bindings, b.expression.Built) {e : Event} (he : e.isPress = false)
    (ops : List (Operation α)) : d.calls (.event e :: ops) = (d.next e).calls ops := by
  rw [calls_event]
  rcases h.decision_noise hbuilt he with hv | hv | ⟨hv, -⟩ <;> rw [hv] <;> rfl

/-- What is no press is only ever kept or dropped. -/
theorem Coherent.outcomes_noise {rc : Code} (h : Coherent rc d)
    (hbuilt : ∀ b ∈ d.bindings, b.expression.Built) {ops : List (Operation α)}
    (hops : ∀ b, .bind b ∈ ops → b.expression.Built) :
    ∀ a ∈ (eventsOf ops).zip ((d.decisions ops).map Decision.outcome), a.1.isPress = false →
      a.2 = .ignored ∨ a.2 = .retained ∨ a.2 = .flushed := by
  induction ops generalizing d with
  | nil => simp [eventsOf]
  | cons op ops ih =>
      have hlater : ∀ b, .bind b ∈ ops → b.expression.Built :=
        fun b hb => hops b (List.mem_cons_of_mem op hb)
      cases op with
      | event e =>
          intro a ha he
          rcases List.mem_cons.1 ha with rfl | ha
          · rcases h.decision_noise hbuilt he with hv | hv | ⟨hv, -⟩
            · exact Or.inl (congrArg Decision.outcome hv)
            · exact Or.inr (Or.inl (congrArg Decision.outcome hv))
            · exact Or.inr (Or.inr (congrArg Decision.outcome hv))
          · exact ih (h.next e) hbuilt hlater a ha he
      | bind b =>
          have hb : b.expression.Built := hops b List.mem_cons_self
          exact ih (h.bind b)
            (List.forall_mem_append.2 ⟨hbuilt, List.forall_mem_singleton.2 hb⟩) hlater
      | clear => exact ih h.clear hbuilt hlater

end

/-- **Runs that are alike stay alike**, decide alike at each press and make the same calls. -/
theorem Alike.run {rc : Code} {d d' : Dispatcher α} (h : Alike rc d d')
    {ops ops' : List (Operation α)} (hthinned : Thinned ops ops')
    (hops : ∀ b, .bind b ∈ ops → b.expression.Built) :
    atPresses ops (d.decisions ops) = atPresses ops' (d'.decisions ops') ∧
      d.calls ops = d'.calls ops' := by
  induction hthinned generalizing d d' with
  | nil => exact ⟨rfl, rfl⟩
  | @keep ops ops' op _ ih =>
      have hlater : ∀ b, .bind b ∈ ops → b.expression.Built :=
        fun b hb => hops b (List.mem_cons_of_mem op hb)
      have halike := h.after op fun b hb => hops b (hb ▸ List.mem_cons_self)
      obtain ⟨hdecisions, hcalls⟩ := ih halike hlater
      cases op with
      | event e =>
          rcases e.eq_press_or_not with ⟨c, rfl⟩ | he
          · have hv := h.decision_press c
            constructor
            · rw [decisions_event, decisions_event, hv]
              exact congrArg (List.cons (Event.press c, d'.decision (.press c))) hdecisions
            · rw [calls_event, calls_event, hv, h.bindings_eq]
              exact congrArg (((d'.decision (.press c)).call? d'.bindings).toList ++ ·) hcalls
          · constructor
            · rw [decisions_event, decisions_event, atPresses_noise he, atPresses_noise he]
              exact hdecisions
            · rw [h.left.calls_noise h.built he, h.right.calls_noise h.symm.built he]
              exact hcalls
      | bind b => exact ⟨hdecisions, hcalls⟩
      | clear => exact ⟨hdecisions, hcalls⟩
  | @drop ops ops' e he _ ih =>
      have hlater : ∀ b, .bind b ∈ ops → b.expression.Built :=
        fun b hb => hops b (List.mem_cons_of_mem _ hb)
      obtain ⟨hdecisions, hcalls⟩ := ih (h.noise he) hlater
      constructor
      · rw [decisions_event, atPresses_noise he]
        exact hdecisions
      · rw [h.left.calls_noise h.built he]
        exact hcalls

end Dispatcher

/-- **Releases and repeats never influence what fires.** Give a new dispatcher any operations, and
another the same without some of the events that are no presses. Every press has the same outcome in
both runs, the same actions are called with the same captures and in the same order, and so they
leave the same world behind. What is no press neither fires nor resets. -/
theorem Dispatcher.run_thinned {σ ε : Type} (invoke : α → List String → StateM σ (Completion ε))
    (message : ε → String) (rc : Code) (t : Translator) {ops ops' : List (Operation α)}
    (hbuilt : ∀ b, .bind b ∈ ops → b.expression.Built) (hthinned : Thinned ops ops') (s : σ) :
    let d := new (Expression.reset rc t)
    let result := (d.run invoke message ops).run s
    let result' := (d.run invoke message ops').run s
    let outcomes := result.1.1.map Prod.fst
    let outcomes' := result'.1.1.map Prod.fst
    outcomes.length = (eventsOf ops).length ∧ outcomes'.length = (eventsOf ops').length ∧
    atPresses ops outcomes = atPresses ops' outcomes' ∧
    (∀ a ∈ (eventsOf ops).zip outcomes ++ (eventsOf ops').zip outcomes', a.1.isPress = false →
      a.2 ≠ .reset ∧ ∀ i, a.2 ≠ .fired i) ∧
    d.calls ops = d.calls ops' ∧
    result.2 = invokeAll invoke (d.calls ops) s ∧
    result'.2 = invokeAll invoke (d.calls ops') s := by
  intro d result result' outcomes outcomes'
  have hbuilt' : ∀ b, .bind b ∈ ops' → b.expression.Built :=
    fun b hb => hbuilt b (hthinned.bind_mem hb)
  have halike : Alike rc d d := .new rc t
  obtain ⟨-, houtcomes, hworld⟩ := d.run_spec invoke message ops s
  obtain ⟨-, houtcomes', hworld'⟩ := d.run_spec invoke message ops' s
  obtain ⟨hdecisions, hcalls⟩ := halike.run hthinned hbuilt
  change outcomes = _ at houtcomes
  change outcomes' = _ at houtcomes'
  rw [houtcomes, houtcomes']
  refine ⟨?_, ?_, ?_, ?_, hcalls, hworld, hworld'⟩
  · rw [List.length_map, d.length_decisions]
  · rw [List.length_map, d.length_decisions]
  · rw [atPresses_map, atPresses_map, hdecisions]
  · intro a ha he
    have hkept : a.2 = .ignored ∨ a.2 = .retained ∨ a.2 = .flushed := by
      rcases List.mem_append.1 ha with ha | ha
      · exact halike.left.outcomes_noise halike.built hbuilt a ha he
      · exact halike.left.outcomes_noise halike.built hbuilt' a ha he
    rcases hkept with hv | hv | hv <;> simp [hv]

/-- A binding that is registered again while presses are in the buffer, with a release in front of
everything, releases and a repeat between the presses and one release at the end. The second run is
spared all of them but one. The reset key is 1. -/
theorem Dispatcher.run_thinned_two_wildcards :
    let b : Binding Unit := ⟨⟨"*<Enter>*", row 28 [.wildcard, .button 28, .wildcard], 28,
      Namespace.keyboard.translator⟩, ()⟩
    let record (_ : Unit) (captures : List String) :
        StateM (List (List String)) (Completion String) :=
      fun written => (.done, written ++ [captures])
    let ops : List (Operation Unit) := [.event (.release 30), .bind b, .event (.press 30),
      .event ⟨30, .repeated⟩, .event (.release 30), .event (.press 28), .bind b,
      .event (.press 28), .event (.release 28), .event (.press 48), .event (.press 28),
      .event (.release 28), .event (.press 1)]
    let ops' : List (Operation Unit) := [.bind b, .event (.press 30), .event (.release 30),
      .event (.press 28), .bind b, .event (.press 28), .event (.press 48), .event (.press 28),
      .event (.press 1)]
    let d := new (Expression.reset 1 Namespace.keyboard.translator)
    let result := (d.run record id ops).run []
    let result' := (d.run record id ops').run []
    (∀ b, .bind b ∈ ops → b.expression.Built) ∧ Thinned ops ops' ∧
    atPresses ops (result.1.1.map Prod.fst) = atPresses ops' (result'.1.1.map Prod.fst) ∧
    atPresses ops' (result'.1.1.map Prod.fst) = [(.press 30, .retained), (.press 28, .retained),
      (.press 28, .retained), (.press 48, .retained), (.press 28, .fired 0), (.press 1, .reset)] ∧
    d.calls ops = d.calls ops' ∧ result.2 = result'.2 ∧ result'.2 = [["a", "b"]] := by
  intro b record ops ops'
  have hbuilt : ∀ b, .bind b ∈ ops → b.expression.Built := by
    intro b' hb'
    have hb : b' = b := by simpa [ops] using hb'
    rw [hb]
    exact .ofText Expression.ofText_two_wildcards
  have hthinned : Thinned ops ops' :=
    .drop rfl <| .keep _ <| .keep _ <| .drop rfl <| .keep _ <| .keep _ <| .keep _ <| .keep _ <|
      .drop rfl <| .keep _ <| .keep _ <| .drop rfl <| .keep _ .nil
  obtain ⟨-, -, hpresses, -, hcalls, hworld, hworld'⟩ :=
    run_thinned record id 1 Namespace.keyboard.translator hbuilt hthinned []
  have hsame := congrArg (invokeAll record · []) hcalls
  exact ⟨hbuilt, hthinned, hpresses, by decide +kernel, hcalls,
    hworld.trans (hsame.trans hworld'.symm), by decide +kernel⟩

end KeyChord
