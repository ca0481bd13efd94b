import KeyChord.Pattern.Expression

/-!
# Dispatching key events

A dispatcher keeps the events since the last decision in a buffer. After each press or release it
decides anew: the reset key throws the buffer away, the first binding that accepts the buffer
fires, and otherwise the buffer is kept for as long as some binding may still accept it. What a
binding does is not the dispatcher's business: deciding never looks at it, and running it can only
add a complaint.
-/

namespace KeyChord

open Key Pattern

/-- An expression and what to do when it accepts. -/
structure Binding (α : Type) where
  expression : Expression
  action : α

/-- The bindings in order of registration, and the events that no decision has used up. -/
structure Dispatcher (α : Type) where
  reset : Expression
  bindings : List (Binding α)
  buffer : List Event

/-- How the run of an action ended. -/
inductive Completion (ε : Type) where
  | done
  | failed (error : ε)
  /-- The action broke down, with a message if it left one. -/
  | crashed (message : Option String)

/-- What an event made the dispatcher do. -/
inductive Outcome where
  /-- Repeats never reach the buffer. -/
  | ignored
  /-- The reset key was pressed and the buffer dropped. -/
  | reset
  /-- The binding of this index accepted and its action was run. -/
  | fired (index : Nat)
  /-- Some binding may still accept the buffer with more events. -/
  | retained
  /-- No binding can accept the buffer any more, so it was dropped. -/
  | flushed
  deriving DecidableEq, Repr

/-- A decision about an event, before any action is run. -/
inductive Decision where
  | ignore
  | reset
  | fire (index : Nat) (captures : List String)
  | retain
  | flush
  deriving DecidableEq, Repr

/-- The outcome that a decision leads to. -/
def Decision.outcome : Decision → Outcome
  | ignore => .ignored
  | reset => .reset
  | fire index _ => .fired index
  | retain => .retained
  | flush => .flushed

/-- The first verdict that accepts, from index `n` on, with its captures. -/
def firstAccepted (n : Nat) : List Verdict → Option (Nat × List String)
  | [] => none
  | v :: rest => if v.state = .accept then some (n, v.captures) else firstAccepted (n + 1) rest

namespace Dispatcher

variable {α σ ε : Type}

/-- A dispatcher without bindings. -/
def new (reset : Expression) : Dispatcher α :=
  ⟨reset, [], []⟩

/-- Registers a binding after the others. The buffer stays. -/
def bind (d : Dispatcher α) (b : Binding α) : Dispatcher α :=
  { d with bindings := d.bindings ++ [b] }

/-- Drops the buffer. -/
def clear (d : Dispatcher α) : Dispatcher α :=
  { d with buffer := [] }

/-- What every binding makes of a buffer, in order of registration. -/
def verdicts (d : Dispatcher α) (buffer : List Event) : List Verdict :=
  d.bindings.map fun b => b.expression.process buffer

/-- Decides about a buffer that has just got its last event. -/
def judge (d : Dispatcher α) (buffer : List Event) : Decision :=
  if (d.reset.process buffer).state = .accept then .reset
  else
    match firstAccepted 0 (d.verdicts buffer) with
    | some (index, captures) => .fire index captures
    | none => if (d.verdicts buffer).any (·.state = .pending) then .retain else .flush

/-- Decides about the next event. -/
def decision (d : Dispatcher α) (e : Event) : Decision :=
  if e.transition = .repeated then .ignore else d.judge (d.buffer ++ [e])

/-- The buffer after a decision about an event. -/
def bufferAfter (d : Dispatcher α) (e : Event) : Decision → List Event
  | .ignore => d.buffer
  | .retain => d.buffer ++ [e]
  | _ => []

/-- The dispatcher after an event, whatever the action of a binding that fires comes to. -/
def next (d : Dispatcher α) (e : Event) : Dispatcher α :=
  { d with buffer := d.bufferAfter e (d.decision e) }

/-- What the dispatcher complains about when an action does not end well. -/
def complaint? (message : ε → String) (pattern : String) : Completion ε → Option String
  | .done => none
  | .failed error => some s!"Handler for '{pattern}' failed: {message error}"
  | .crashed text =>
    let said := text.getD "Unknown panic payload"
    some s!"Handler for '{pattern}' panicked: {said}"

/-- Runs the action of a binding that fires. A decision that fires none runs nothing. -/
def perform (invoke : α → List String → StateM σ (Completion ε)) (message : ε → String)
    (d : Dispatcher α) : Decision → StateM σ (Option String)
  | .fire index captures =>
    match d.bindings[index]? with
    | some b => do
      let completion ← invoke b.action captures
      pure (complaint? message b.expression.pattern completion)
    | none => pure none
  | _ => pure none

/-- Takes one event: decides, runs the action of the binding that fires, and answers the outcome,
the complaint about the action and the dispatcher afterwards. -/
def handle (invoke : α → List String → StateM σ (Completion ε)) (message : ε → String)
    (d : Dispatcher α) (e : Event) : StateM σ (Outcome × Option String × Dispatcher α) := do
  let decision := d.decision e
  let complaint ← d.perform invoke message decision
  pure (decision.outcome, complaint, d.next e)

end Dispatcher

end KeyChord
