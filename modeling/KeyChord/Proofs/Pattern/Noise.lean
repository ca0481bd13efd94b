import KeyChord.Proofs.Pattern.Viability

/-!
# Noise in a buffer

What is no press moves no row on. It only counts at the end of a buffer, where it comes too late for
what has been accepted; so a buffer that ends in a press may as well hold its presses alone.

* `Expression.Built.process_concat_press`: the verdict on a buffer that ends in a press is the one
  on its presses.
* `Expression.Built.not_accept_concat_noise`: no buffer that ends in noise is accepted.
* `Expression.Built.pending_concat_noise`: noise leaves an expression waiting.
-/

namespace KeyChord.Pattern

open Key

/-- **Before a press, noise does not matter**: a row skips it for as long as it waits, and a row
that has run out rejects the press as well. -/
theorem evaluate_row_concat_press (t : Code) (literals : List Literal) (events : List Event)
    (c : Code) :
    let m := (row t literals).evaluate (events ++ [.press c])
    let m' := (row t literals).evaluate ((presses events).map Event.press ++ [.press c])
    m.verdict = m'.verdict ∧ m.captures = m'.captures := by
  induction events generalizing literals with
  | nil => exact ⟨rfl, rfl⟩
  | cons e events ih =>
      rcases literals with _ | ⟨l, literals⟩
      · simp [Match.verdict]
      rcases e.eq_press_or_not with ⟨k, rfl⟩ | hnoise
      · rw [presses_press_cons, List.map_cons, List.cons_append, List.cons_append]
        cases l with
        | button b =>
            by_cases hk : k = b
            · subst hk
              simpa using ih literals
            · simp [evaluate_row_wrong t literals _ hk, Match.verdict]
        | wildcard =>
            by_cases hk : k = t
            · subst hk
              simpa [Match.verdict, Match.prepend] using ih literals
            · obtain ⟨hverdict, hcaptures⟩ := ih (.wildcard :: literals)
              simp only [evaluate_row_taken t literals _ hk]
              exact ⟨hverdict, by rw [hcaptures]⟩
      · rw [presses_cons_of_not_press hnoise, List.cons_append,
          evaluate_row_noise t l literals _ hnoise]
        exact ih (l :: literals)

namespace Expression

namespace Built

variable {x : Expression} (hx : x.Built)

include hx

/-- **The verdict on a buffer that ends in a press is the one on its presses.** -/
theorem process_concat_press (events : List Event) (c : Code) :
    x.process (events ++ [.press c]) =
      x.process ((presses events).map Event.press ++ [.press c]) := by
  obtain ⟨t, literals, h⟩ := hx.exists_matchesAs
  obtain ⟨hverdict, hcaptures⟩ := evaluate_row_concat_press t literals events c
  rw [← h.evaluate_eq, ← h.evaluate_eq] at hverdict hcaptures
  change Verdict.mk (Match.verdict _) _ = Verdict.mk (Match.verdict _) _
  rw [hverdict, hcaptures]

/-- The last event of a buffer that is accepted is a press. -/
theorem not_accept_concat_noise (events : List Event) {e : Event} (he : e.isPress = false) :
    (x.process (events ++ [e])).state ≠ .accept := by
  obtain ⟨t, literals, h⟩ := hx.exists_matchesAs
  rw [h.state_eq, residual_append]
  intro haccept
  rw [stateOf_eq_accept, Option.bind_eq_some_iff] at haccept
  obtain ⟨left, -, hlast⟩ := haccept
  rcases left with _ | ⟨l, left⟩
  · cases hlast
  · rw [residual_cons, advance_noise t l left he] at hlast
    cases hlast

/-- Noise leaves an expression waiting. -/
theorem pending_concat_noise {events : List Event} {e : Event} (he : e.isPress = false)
    (hpending : (x.process events).state = .pending) :
    (x.process (events ++ [e])).state = .pending := by
  obtain ⟨t, literals, h⟩ := hx.exists_matchesAs
  rw [h.state_eq, stateOf_eq_pending] at hpending
  obtain ⟨l, left, hleft⟩ := hpending
  have hstay : residual t literals (events ++ [e]) = some (l :: left) := by
    rw [residual_append, hleft, Option.bind_some, residual_cons, advance_noise t l left he]
    rfl
  rw [h.state_eq, hstay]
  rfl

end Built

end Expression

end KeyChord.Pattern
