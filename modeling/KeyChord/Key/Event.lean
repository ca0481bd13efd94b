/-!
# Key events

An input device reports raw events. Those of the key type with value zero or one are transitions
of a key or button; an automatic repeat has value two and is no transition that a device passes
on, though a buffer of events may hold one.
-/

namespace KeyChord.Key

/-- The number of a key or button. -/
abbrev Code := UInt16

/-- What a key does. -/
inductive Transition where
  | press
  | release
  /-- The key is held down and repeats. -/
  | repeated
  deriving DecidableEq, Repr, Inhabited

/-- The transition that the value of a raw event stands for. -/
def Transition.ofValue? (value : Int32) : Option Transition :=
  if value = 0 then some .release
  else if value = 1 then some .press
  else if value = 2 then some .repeated
  else none

/-- A key and what it does. -/
structure Event where
  code : Code
  transition : Transition
  deriving DecidableEq, Repr, Inhabited

namespace Event

/-- The key goes down. -/
def press (code : Code) : Event :=
  ⟨code, .press⟩

/-- The key goes up. -/
def release (code : Code) : Event :=
  ⟨code, .release⟩

/-- Whether the key goes down. -/
def isPress (e : Event) : Bool :=
  e.transition = .press

end Event

/-- An event as the device reports it. -/
structure RawEvent where
  type : UInt16
  code : Code
  value : Int32
  deriving DecidableEq, Repr

/-- The type of raw events that keys and buttons make. -/
def keyType : UInt16 := 1

/-- The press or release that a raw event stands for. Repeats and everything else are dropped. -/
def RawEvent.event? (raw : RawEvent) : Option Event :=
  if raw.type = keyType then
    match Transition.ofValue? raw.value with
    | some .press => some (.press raw.code)
    | some .release => some (.release raw.code)
    | _ => none
  else none

end KeyChord.Key
