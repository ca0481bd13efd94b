import KeyChord.Key.Event

/-!
# Matching a buffer of events

A matcher looks at a buffer of events and answers in three values: it accepts, it rejects, or it
is pending and more events may make it accept. It also answers what it left of the buffer and the
presses that its wildcards took.
-/

namespace KeyChord.Pattern

open Key

/-- What is waited for. -/
inductive Matcher where
  /-- A transition of one key. -/
  | button (code : Code) (transition : Transition)
  /-- Any presses up to one of the terminator. -/
  | wildcard (terminator : Code)
  | sequence (children : List Matcher)

/-- The answer of a matcher. -/
inductive State where
  | accept
  | reject
  | pending
  deriving DecidableEq, Repr

/-- What a matcher makes of a buffer. -/
structure Match where
  state : State
  /-- The events left; a suffix of the buffer. -/
  remainder : List Event
  /-- The presses that each wildcard took, in order. -/
  captures : List (List Event)
  deriving DecidableEq, Repr

/-- Waits for a transition of a key. Waiting for a release skips releases of other keys and
rejects any other transition; waiting for a press skips whatever is no press and rejects a press
of another key. -/
def awaitButton (code : Code) (transition : Transition) : List Event → Match
  | [] => ⟨.pending, [], []⟩
  | e :: rest =>
    if e.transition = transition then
      if e.code = code then ⟨.accept, rest, []⟩
      else if transition = .release then awaitButton code transition rest
      else ⟨.reject, e :: rest, []⟩
    else if transition = .release then ⟨.reject, e :: rest, []⟩
    else awaitButton code transition rest

/-- Takes presses up to one of the terminator; `run` are those taken so far, the newest first.
Whatever is no press is skipped. -/
def awaitTerminator (terminator : Code) (run : List Event) : List Event → Match
  | [] => ⟨.pending, [], []⟩
  | e :: rest =>
    if e.isPress then
      if e.code = terminator then ⟨.accept, rest, [run.reverse]⟩
      else awaitTerminator terminator (e :: run) rest
    else awaitTerminator terminator run rest

mutual

/-- Runs a matcher over a buffer. -/
def Matcher.evaluate : Matcher → List Event → Match
  | .button code transition, keys => awaitButton code transition keys
  | .wildcard terminator, keys => awaitTerminator terminator [] keys
  | .sequence children, keys => evaluateAll children ⟨.accept, keys, []⟩

/-- Runs matchers one after another, each on what the one before left. A rejection ends the row
and takes the captures of the matcher that rejects with it; a pending answer does not, and the
last matcher run decides. -/
def Matcher.evaluateAll : List Matcher → Match → Match
  | [], before => before
  | child :: children, before =>
    let next := child.evaluate before.remainder
    if next.state = .reject then ⟨.reject, next.remainder, before.captures⟩
    else evaluateAll children ⟨next.state, next.remainder, before.captures ++ next.captures⟩

end

end KeyChord.Pattern
