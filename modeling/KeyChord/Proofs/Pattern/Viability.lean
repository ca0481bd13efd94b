import KeyChord.Proofs.Pattern.Compiled

/-!
# Which buffers may still be accepted

A row of literals is an automaton: an event leaves the row as it is, takes literals from its front
or makes it impossible to match. The verdict on a buffer is read off the row that is left.

* `residual t literals events`: the row that is left after the events, if any.
* `Expression.MatchesAs.state_eq`: the verdict of an expression, in terms of what is left.
* `Expression.MatchesAs.not_reject_iff`: an expression rejects exactly the buffers that no further
  events can make it accept.
* `Expression.Built.verdict_exact`: the three verdicts mean what they say.
-/

namespace KeyChord.Pattern

open Key

/-! ## The row that is left -/

/-- The row that an event leaves. A press of a wrong key leaves none, and neither does any event at
all after the last literal. -/
def advance (t : Code) : List Literal → Event → Option (List Literal)
  | [], _ => none
  | .button c :: literals, e =>
    if e.isPress then if e.code = c then some literals else none
    else some (.button c :: literals)
  | .wildcard :: literals, e =>
    if e.isPress then if e.code = t then some literals else some (.wildcard :: literals)
    else some (.wildcard :: literals)

/-- The row that events leave, one after another. -/
def residual (t : Code) (literals : List Literal) (events : List Event) : Option (List Literal) :=
  events.foldlM (advance t) literals

@[simp] theorem residual_nil (t : Code) (literals : List Literal) :
    residual t literals [] = some literals := rfl

theorem residual_cons (t : Code) (literals : List Literal) (e : Event) (events : List Event) :
    residual t literals (e :: events) =
      (advance t literals e).bind fun left => residual t left events := rfl

theorem residual_append (t : Code) (literals : List Literal) (events later : List Event) :
    residual t literals (events ++ later) =
      (residual t literals events).bind fun left => residual t left later :=
  List.foldlM_append

/-- After the last literal there is nothing that an event could meet. -/
@[simp] theorem residual_nil_cons (t : Code) (e : Event) (events : List Event) :
    residual t [] (e :: events) = none := rfl

theorem advance_noise (t : Code) (l : Literal) (literals : List Literal) {e : Event}
    (h : e.isPress = false) : advance t (l :: literals) e = some (l :: literals) := by
  cases l <;> simp [advance, h]

/-- Until its terminator is pressed, a wildcard stays. -/
theorem residual_wildcard {t : Code} (literals : List Literal) {events : List Event}
    (h : Event.press t ∉ events) :
    residual t (.wildcard :: literals) events = some (.wildcard :: literals) := by
  induction events with
  | nil => rfl
  | cons e events ih =>
      obtain ⟨hhead, htail⟩ := not_or.1 (mt List.mem_cons.2 h)
      have hstay : advance t (.wildcard :: literals) e = some (.wildcard :: literals) := by
        rcases e.eq_press_or_not with ⟨c, rfl⟩ | hnoise
        · have hc : c ≠ t := fun hct => hhead (by rw [hct])
          simp [advance, hc]
        · exact advance_noise t _ literals hnoise
      rw [residual_cons, hstay]
      exact ih htail

/-! ## A row that is left can be completed -/

/-- The press that a literal is met by. -/
def Literal.key (t : Code) : Literal → Event
  | button c => .press c
  | wildcard => .press t

theorem advance_key (t : Code) (l : Literal) (literals : List Literal) :
    advance t (l :: literals) (l.key t) = some literals := by
  cases l <;> simp [advance, Literal.key]

/-- Every row is met by some presses: one for each literal. -/
theorem residual_keys (t : Code) (literals : List Literal) :
    residual t literals (literals.map (Literal.key t)) = some [] := by
  induction literals with
  | nil => rfl
  | cons l literals ih =>
      rw [List.map_cons, residual_cons, advance_key]
      exact ih

/-! ## A row in two parts -/

/-- An event meets the front of a row, whatever comes behind. -/
theorem advance_append (t : Code) (l : Literal) (literals more : List Literal) (e : Event) :
    advance t (l :: literals ++ more) e = (advance t (l :: literals) e).map (· ++ more) := by
  cases l <;> simp only [List.cons_append, advance] <;> split_ifs <;> rfl

/-- Events that meet a row meet its front first and then the rest. -/
theorem exists_front_of_residual {t : Code} {literals more : List Literal} {events : List Event}
    (h : residual t (literals ++ more) events = some []) :
    ∃ front later, events = front ++ later ∧ residual t literals front = some [] ∧
      residual t more later = some [] := by
  induction events generalizing literals with
  | nil =>
      obtain ⟨rfl, rfl⟩ := List.append_eq_nil_iff.1 (Option.some.inj h)
      exact ⟨[], [], rfl, rfl, rfl⟩
  | cons e events ih =>
      rcases literals with _ | ⟨l, literals⟩
      · exact ⟨[], e :: events, rfl, rfl, h⟩
      rw [residual_cons, advance_append, Option.bind_map, Option.bind_eq_some_iff] at h
      obtain ⟨left, hadvance, hleft⟩ := h
      obtain ⟨front, later, rfl, hfront, hlater⟩ := ih hleft
      refine ⟨e :: front, later, rfl, ?_, hlater⟩
      rw [residual_cons, hadvance]
      exact hfront

/-! ## The verdict on a buffer -/

/-- The verdict that goes with a row that is left. -/
def stateOf : Option (List Literal) → State
  | none => .reject
  | some [] => .accept
  | some (_ :: _) => .pending

theorem stateOf_eq_accept {left : Option (List Literal)} :
    stateOf left = .accept ↔ left = some [] := by
  rcases left with _ | _ | ⟨l, literals⟩ <;> simp [stateOf]

theorem stateOf_eq_pending {left : Option (List Literal)} :
    stateOf left = .pending ↔ ∃ l literals, left = some (l :: literals) := by
  rcases left with _ | _ | ⟨l, literals⟩ <;> simp [stateOf]

/-- What a match says about the whole buffer: events that are left over reject it. -/
def Match.verdict (m : Match) : State :=
  if m.remainder = [] then m.state else .reject

/-- **A row's verdict is read off the row that is left.** -/
theorem verdict_row (t : Code) (literals : List Literal) (events : List Event) :
    ((row t literals).evaluate events).verdict = stateOf (residual t literals events) := by
  induction events generalizing literals with
  | nil => cases literals <;> simp [Match.verdict, stateOf]
  | cons e events ih =>
      rcases literals with _ | ⟨l, literals⟩
      · simp [Match.verdict, stateOf]
      rw [residual_cons]
      rcases e.eq_press_or_not with ⟨k, rfl⟩ | hnoise
      · cases l with
        | button c =>
            by_cases hk : k = c
            · subst hk
              simpa [advance] using ih literals
            · simp [advance, hk, evaluate_row_wrong t literals events hk, Match.verdict, stateOf]
        | wildcard =>
            by_cases hk : k = t
            · subst hk
              simpa [advance, Match.verdict] using ih literals
            · simpa [advance, hk, evaluate_row_taken t literals events hk, Match.verdict] using
                ih (.wildcard :: literals)
      · rw [evaluate_row_noise t l literals events hnoise, advance_noise t l literals hnoise]
        exact ih (l :: literals)

namespace Expression

namespace MatchesAs

variable {x : Expression} {t : Code} {literals : List Literal} (h : x.MatchesAs t literals)

include h

theorem state_eq (events : List Event) :
    (x.process events).state = stateOf (residual t literals events) := by
  rw [← verdict_row, ← h.evaluate_eq]
  rfl

/-- What rejects or is accepted already cannot be accepted with more events. -/
theorem reject_append {events later : List Event} (hlater : later ≠ [])
    (hstate : (x.process events).state ≠ .pending) :
    (x.process (events ++ later)).state = .reject := by
  rw [h.state_eq] at hstate ⊢
  obtain ⟨e, later, rfl⟩ := List.exists_cons_of_ne_nil hlater
  rw [residual_append]
  rcases hleft : residual t literals events with _ | _ | ⟨l, left⟩
  · rfl
  · rfl
  · exact absurd (stateOf_eq_pending.2 ⟨l, left, hleft⟩) hstate

/-- What is pending can be accepted, after at least one more event. -/
theorem exists_accept_of_pending {events : List Event}
    (hstate : (x.process events).state = .pending) :
    ∃ later, later ≠ [] ∧ (x.process (events ++ later)).state = .accept := by
  rw [h.state_eq, stateOf_eq_pending] at hstate
  obtain ⟨l, left, hleft⟩ := hstate
  refine ⟨(l :: left).map (Literal.key t), by simp, ?_⟩
  rw [h.state_eq, residual_append, hleft, Option.bind_some, residual_keys]
  rfl

/-- An expression rejects exactly the buffers that no further events make it accept. -/
theorem not_reject_iff (events : List Event) :
    (x.process events).state ≠ .reject ↔
      ∃ later, (x.process (events ++ later)).state = .accept := by
  constructor
  · intro hstate
    cases hs : (x.process events).state with
    | accept => exact ⟨[], by rwa [List.append_nil]⟩
    | reject => exact absurd hs hstate
    | pending =>
        obtain ⟨later, -, haccept⟩ := h.exists_accept_of_pending hs
        exact ⟨later, haccept⟩
  · rintro ⟨later, haccept⟩ hstate
    by_cases hlater : later = []
    · rw [hlater, List.append_nil, hstate] at haccept
      cases haccept
    · rw [h.reject_append hlater (by rw [hstate]; decide)] at haccept
      cases haccept

/-- No events at all are never enough. -/
theorem state_nil : (x.process []).state = .pending := by
  rw [h.state_eq, residual_nil]
  obtain ⟨l, left, hl⟩ := List.exists_cons_of_ne_nil h.nonempty
  rw [hl]
  rfl

end MatchesAs

/-- Where the reset key has not been pressed yet, only its press is accepted. -/
theorem reset_accept_iff {code : Code} {events : List Event} (h : Event.press code ∉ events)
    (t : Translator) (e : Event) :
    ((reset code t).process (events ++ [e])).state = .accept ↔ e = .press code := by
  have hleft : residual code [.wildcard] (events ++ [e]) = advance code [.wildcard] e := by
    rw [residual_append, residual_wildcard [] h, Option.bind_some, residual_cons]
    exact Option.bind_fun_some _
  rw [(matchesAs_reset code t).state_eq, hleft, stateOf_eq_accept]
  rcases e.eq_press_or_not with ⟨c, rfl⟩ | hnoise
  · by_cases hc : c = code <;> simp [advance, hc]
  · rw [advance_noise code .wildcard [] hnoise]
    constructor
    · intro hleft
      cases hleft
    · rintro rfl
      cases hnoise

/-- **The three verdicts are exact.** A buffer is pending when it is not accepted but will be after
some more events, it is rejected when no events whatever make it accepted, and anything that comes
after an accepted buffer turns it into a rejected one. -/
theorem Built.verdict_exact {x : Expression} (hx : x.Built) (events : List Event) :
    ((x.process events).state = .pending ↔
      (x.process events).state ≠ .accept ∧
        ∃ later, later ≠ [] ∧ (x.process (events ++ later)).state = .accept) ∧
    ((x.process events).state = .reject ↔
      ∀ later, (x.process (events ++ later)).state ≠ .accept) ∧
    ((x.process events).state = .accept →
      ∀ later, later ≠ [] → (x.process (events ++ later)).state = .reject) := by
  obtain ⟨t, literals, h⟩ := hx.exists_matchesAs
  refine ⟨⟨fun hp => ⟨by rw [hp]; decide, h.exists_accept_of_pending hp⟩, ?_⟩, ?_, ?_⟩
  · rintro ⟨-, later, hlater, haccept⟩
    by_contra hp
    rw [h.reject_append hlater hp] at haccept
    cases haccept
  · rw [← not_iff_not, not_forall_not]
    exact h.not_reject_iff events
  · intro ha later hlater
    exact h.reject_append hlater (by rw [ha]; decide)

/-- Two wildcards, a button on their terminator and a buffer that has come to the button. -/
theorem Built.verdict_exact_two_wildcards :
    let x : Expression := ⟨"*<Enter>*", row 28 [.wildcard, .button 28, .wildcard], 28,
      Namespace.keyboard.translator⟩
    let events : List Event := [.press 30, .release 30, .press 28]
    x.Built ∧
    ((x.process events).state = .pending ↔
      (x.process events).state ≠ .accept ∧
        ∃ later, later ≠ [] ∧ (x.process (events ++ later)).state = .accept) ∧
    ((x.process events).state = .reject ↔
      ∀ later, (x.process (events ++ later)).state ≠ .accept) ∧
    ((x.process events).state = .accept →
      ∀ later, later ≠ [] → (x.process (events ++ later)).state = .reject) :=
  ⟨.ofText ofText_two_wildcards, Built.verdict_exact (.ofText ofText_two_wildcards) _⟩

end Expression

end KeyChord.Pattern
