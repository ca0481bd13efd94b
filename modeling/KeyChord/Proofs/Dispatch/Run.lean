import KeyChord.Dispatch

/-!
# Runs of a dispatcher

A dispatcher is handed events, is given bindings and is cleared, in any order. Deciding never looks
at what an action comes to, so a run splits in two: the decisions and the dispatchers in between,
which are pure, and the calls of actions, which are all that happens to the world.

* `Operation`, `Dispatcher.run`: what can be done to a dispatcher, and doing it.
* `Dispatcher.afterAll`, `decisions`, `calls`: the two halves of a run.
* `run_spec`: a run is made of its halves.
-/

namespace KeyChord

open Key Pattern

/-- What can be done to a dispatcher. -/
inductive Operation (α : Type) where
  | event (e : Event)
  | bind (b : Binding α)
  | clear

/-- The call that a decision makes: of the action of the binding that fires, with its captures. -/
def Decision.call? {α : Type} (bindings : List (Binding α)) : Decision → Option (α × List String)
  | .fire index captures => bindings[index]?.map fun b => (b.action, captures)
  | _ => none

/-- The world after calls of actions, one after another. -/
def invokeAll {α σ ε : Type} (invoke : α → List String → StateM σ (Completion ε))
    (calls : List (α × List String)) (s : σ) : σ :=
  calls.foldl (fun s call => ((invoke call.1 call.2).run s).2) s

namespace Dispatcher

variable {α σ ε : Type}

/-- Does one thing to a dispatcher. An event is answered with its outcome and the complaint about
the action; nothing else has an answer. -/
def operate (invoke : α → List String → StateM σ (Completion ε)) (message : ε → String)
    (d : Dispatcher α) : Operation α → StateM σ (List (Outcome × Option String) × Dispatcher α)
  | .event e => do
    let (outcome, complaint, d) ← d.handle invoke message e
    pure ([(outcome, complaint)], d)
  | .bind b => pure ([], d.bind b)
  | .clear => pure ([], d.clear)

/-- Does one thing after another and collects the answers to the events. -/
def run (invoke : α → List String → StateM σ (Completion ε)) (message : ε → String) :
    Dispatcher α → List (Operation α) →
      StateM σ (List (Outcome × Option String) × Dispatcher α)
  | d, [] => pure ([], d)
  | d, op :: ops => do
    let (answers, d) ← d.operate invoke message op
    let (later, d) ← run invoke message d ops
    pure (answers ++ later, d)

/-! ## The pure half -/

/-- The dispatcher after an operation. -/
def after (d : Dispatcher α) : Operation α → Dispatcher α
  | .event e => d.next e
  | .bind b => d.bind b
  | .clear => d.clear

/-- The dispatcher after operations. -/
def afterAll (d : Dispatcher α) (ops : List (Operation α)) : Dispatcher α :=
  ops.foldl after d

/-- The decision that an operation asks for: one if it is an event. -/
def decided (d : Dispatcher α) : Operation α → List Decision
  | .event e => [d.decision e]
  | _ => []

/-- The decisions about the events of a run. -/
def decisions : Dispatcher α → List (Operation α) → List Decision
  | _, [] => []
  | d, op :: ops => d.decided op ++ decisions (d.after op) ops

/-- Every binding was there at the start or has been bound since. -/
theorem mem_bindings_afterAll {d : Dispatcher α} {ops : List (Operation α)} {b : Binding α}
    (h : b ∈ (d.afterAll ops).bindings) : b ∈ d.bindings ∨ .bind b ∈ ops := by
  induction ops generalizing d with
  | nil => exact Or.inl h
  | cons op ops ih =>
      rcases ih (d := d.after op) h with hmem | hbind
      · cases op with
        | event e => exact Or.inl hmem
        | clear => exact Or.inl hmem
        | bind b' =>
            rcases List.mem_append.1 hmem with hmem | hmem
            · exact Or.inl hmem
            · obtain rfl := List.mem_singleton.1 hmem
              exact Or.inr List.mem_cons_self
      · exact Or.inr (List.mem_cons_of_mem op hbind)

/-! ## The calls -/

/-- The calls of a run. -/
def calls : Dispatcher α → List (Operation α) → List (α × List String)
  | _, [] => []
  | d, op :: ops =>
    (d.decided op).filterMap (Decision.call? d.bindings) ++ calls (d.after op) ops

theorem filterMap_decided_event (d : Dispatcher α) (e : Event) :
    (d.decided (.event e)).filterMap (Decision.call? d.bindings) =
      ((d.decision e).call? d.bindings).toList := by
  rw [decided, List.filterMap_cons]
  cases (d.decision e).call? d.bindings <;> rfl

/-! ## Events alone -/

theorem decisions_event (d : Dispatcher α) (e : Event) (ops : List (Operation α)) :
    d.decisions (.event e :: ops) = d.decision e :: (d.next e).decisions ops := rfl

theorem calls_event (d : Dispatcher α) (e : Event) (ops : List (Operation α)) :
    d.calls (.event e :: ops) =
      ((d.decision e).call? d.bindings).toList ++ (d.next e).calls ops := by
  rw [← filterMap_decided_event]
  rfl

/-- What is decided about an event depends on the events before it alone. -/
theorem getElem?_decisions_event (d : Dispatcher α) (front : List Event) (e : Event)
    (later : List Event) :
    (d.decisions ((front ++ e :: later).map .event))[front.length]? =
      some ((d.afterAll (front.map .event)).decision e) := by
  induction front generalizing d with
  | nil => rfl
  | cons e' front ih => exact ih (d.next e')

/-- The last of some events is decided about by the dispatcher that the others lead to. -/
theorem decisions_concat_event (d : Dispatcher α) (front : List Event) (e : Event) :
    d.decisions ((front ++ [e]).map .event) =
      d.decisions (front.map .event) ++ [(d.afterAll (front.map .event)).decision e] := by
  induction front generalizing d with
  | nil => rfl
  | cons e' front ih => exact congrArg (d.decision e' :: ·) (ih (d.next e'))

/-- Events leave the bindings as they are. -/
theorem bindings_afterAll_events (d : Dispatcher α) (events : List Event) :
    (d.afterAll (events.map .event)).bindings = d.bindings := by
  induction events generalizing d with
  | nil => rfl
  | cons e events ih => exact ih (d.next e)

/-- As events leave the bindings as they are, the calls can be read off the decisions. -/
theorem calls_events (d : Dispatcher α) (events : List Event) :
    d.calls (events.map .event) =
      (d.decisions (events.map .event)).filterMap (Decision.call? d.bindings) := by
  induction events generalizing d with
  | nil => rfl
  | cons e events ih =>
      rw [List.map_cons, calls_event, decisions_event, List.filterMap_cons, ih]
      cases hcall : (d.decision e).call? d.bindings with
      | none => rfl
      | some call => rfl

/-- Bindings that are registered before the first event are there, in order. -/
theorem foldl_bind (d : Dispatcher α) (bindings : List (Binding α)) :
    bindings.foldl bind d = { d with bindings := d.bindings ++ bindings } := by
  induction bindings generalizing d with
  | nil => simp
  | cons b bindings ih => simp [ih, bind]

/-! ## A run is made of its halves -/

section

variable (invoke : α → List String → StateM σ (Completion ε)) (message : ε → String)
  (d : Dispatcher α)

/-- Performing a decision makes its call and does nothing else to the world. -/
theorem perform_world (decision : Decision) (s : σ) :
    ((d.perform invoke message decision).run s).2 =
      invokeAll invoke (decision.call? d.bindings).toList s := by
  cases decision with
  | fire index captures =>
      cases hb : d.bindings[index]? with
      | none =>
          simp only [perform, Decision.call?, hb]
          rfl
      | some b =>
          simp only [perform, Decision.call?, hb]
          rfl
  | ignore => rfl
  | reset => rfl
  | retain => rfl
  | flush => rfl

/-- The three parts of what an operation comes to. -/
theorem operate_spec (op : Operation α) (s : σ) :
    ((d.operate invoke message op).run s).1.2 = d.after op ∧
    ((d.operate invoke message op).run s).1.1.map Prod.fst = (d.decided op).map Decision.outcome ∧
    ((d.operate invoke message op).run s).2 =
      invokeAll invoke ((d.decided op).filterMap (Decision.call? d.bindings)) s := by
  cases op with
  | event e =>
      refine ⟨rfl, rfl, ?_⟩
      rw [filterMap_decided_event]
      exact d.perform_world invoke message (d.decision e) s
  | bind b => exact ⟨rfl, rfl, rfl⟩
  | clear => exact ⟨rfl, rfl, rfl⟩

theorem invokeAll_append (first later : List (α × List String)) (s : σ) :
    invokeAll invoke (first ++ later) s = invokeAll invoke later (invokeAll invoke first s) :=
  List.foldl_append

/-- **A run is made of its halves**: the dispatchers and the decisions of the pure half, and a world
that the calls have been made in, one after another. -/
theorem run_spec (ops : List (Operation α)) (s : σ) :
    ((d.run invoke message ops).run s).1.2 = d.afterAll ops ∧
    ((d.run invoke message ops).run s).1.1.map Prod.fst =
      (d.decisions ops).map Decision.outcome ∧
    ((d.run invoke message ops).run s).2 = invokeAll invoke (d.calls ops) s := by
  induction ops generalizing d s with
  | nil => exact ⟨rfl, rfl, rfl⟩
  | cons op ops ih =>
      obtain ⟨hafter, houtcomes, hworld⟩ := d.operate_spec invoke message op s
      obtain ⟨hafter', houtcomes', hworld'⟩ :=
        ih ((d.operate invoke message op).run s).1.2 ((d.operate invoke message op).run s).2
      have hanswers : ((d.run invoke message (op :: ops)).run s).1.1 =
          ((d.operate invoke message op).run s).1.1 ++
            ((((d.operate invoke message op).run s).1.2.run invoke message ops).run
              ((d.operate invoke message op).run s).2).1.1 := rfl
      refine ⟨hafter'.trans ?_, ?_, hworld'.trans ?_⟩
      · rw [hafter]
        rfl
      · rw [hanswers, List.map_append, houtcomes, houtcomes', hafter, ← List.map_append]
        rfl
      · rw [hafter, hworld, ← invokeAll_append]
        rfl

/-- The outcome of an event is decided by the dispatcher that the events before it lead to. -/
theorem getElem?_outcomes_event (front : List Event) (e : Event) (later : List Event) (s : σ) :
    (((d.run invoke message ((front ++ e :: later).map .event)).run s).1.1.map
      Prod.fst)[front.length]? = some ((d.afterAll (front.map .event)).decision e).outcome := by
  obtain ⟨-, houtcomes, -⟩ :=
    d.run_spec invoke message ((front ++ e :: later).map .event) s
  rw [houtcomes, List.getElem?_map, getElem?_decisions_event]
  rfl

end

end Dispatcher

end KeyChord
