import KeyChord.Proofs.Key.Presses
import KeyChord.Proofs.Pattern.Locality

/-!
# Rows of literals

A pattern text compiles to a single row of literals, all of whose wildcards end at the same key.
Matching is defined literal by literal: each runs over what the one before left. The equations
below turn this around and read a row **event by event**, which is what a dispatcher does that
looks at a growing buffer:

* noise in front of a literal is skipped (`evaluate_row_noise`);
* a press either meets the first literal (`evaluate_row_button`, `evaluate_row_terminator`), is
  taken by it (`evaluate_row_taken`) or rejects the row (`evaluate_row_wrong`);
* a row that has run out accepts and leaves everything, any other row is pending when the events
  have run out.
-/

namespace KeyChord.Pattern

open Key

/-- A literal of a compiled pattern. -/
inductive Literal where
  /-- A press of the key. -/
  | button (code : Code)
  /-- Any presses up to one of the terminator, which is the same for a whole row. -/
  | wildcard
  deriving DecidableEq, Repr

/-- What a literal waits for. -/
def Literal.matcher (terminator : Code) : Literal → Matcher
  | button code => .button code .press
  | wildcard => .wildcard terminator

/-- A literal waits when there are no events. -/
theorem Literal.evaluate_matcher_nil (l : Literal) (t : Code) :
    (l.matcher t).evaluate [] = ⟨.pending, [], []⟩ := by
  cases l <;> rfl

/-- The matcher of a row of literals. -/
def row (terminator : Code) (literals : List Literal) : Matcher :=
  .sequence (literals.map (Literal.matcher terminator))

theorem Literal.matcher_inj {terminator : Code} {l l' : Literal} :
    l.matcher terminator = l'.matcher terminator ↔ l = l' := by
  cases l <;> cases l' <;> simp [Literal.matcher]

/-- A row has one list of literals. -/
theorem row_inj {terminator : Code} {literals literals' : List Literal} :
    row terminator literals = row terminator literals' ↔ literals = literals' := by
  rw [row, row, Matcher.sequence.injEq]
  exact List.map_inj_right fun _ _ => Literal.matcher_inj.1

/-- A match with captures put before its own. -/
def Match.prepend (captures : List (List Event)) (m : Match) : Match :=
  { m with captures := captures ++ m.captures }

@[simp] theorem Match.state_prepend (captures : List (List Event)) (m : Match) :
    (m.prepend captures).state = m.state := rfl

@[simp] theorem Match.remainder_prepend (captures : List (List Event)) (m : Match) :
    (m.prepend captures).remainder = m.remainder := rfl

theorem Match.prepend_eq_iff {run : List Event} {m : Match} {s : State} {rest : List Event}
    {captures : List (List Event)} :
    m.prepend [run] = ⟨s, rest, captures⟩ ↔
      ∃ later, captures = run :: later ∧ m = ⟨s, rest, later⟩ := by
  obtain ⟨s', rest', captures'⟩ := m
  simp only [Match.prepend, Match.mk.injEq, List.singleton_append]
  constructor
  · rintro ⟨rfl, rfl, rfl⟩
    exact ⟨captures', rfl, rfl, rfl, rfl⟩
  · rintro ⟨later, rfl, rfl, rfl, rfl⟩
    exact ⟨rfl, rfl, rfl⟩

/-! ## Matchers one after another -/

/-- What was captured before a row of matchers comes before its captures and changes nothing
else. -/
theorem evaluateAll_prepend (ms : List Matcher) (s : State) (events : List Event)
    (before captures : List (List Event)) :
    Matcher.evaluateAll ms ⟨s, events, before ++ captures⟩ =
      (Matcher.evaluateAll ms ⟨s, events, captures⟩).prepend before := by
  induction ms generalizing s events captures with
  | nil => rfl
  | cons m ms ih =>
      simp only [Matcher.evaluateAll]
      split
      · rfl
      · rw [List.append_assoc, ih]

/-- Literals that come to the end of the events wait for more, and take nothing. -/
theorem evaluateAll_literals_nil (t : Code) (literals : List Literal)
    (captures : List (List Event)) :
    Matcher.evaluateAll (literals.map (Literal.matcher t)) ⟨.pending, [], captures⟩ =
      ⟨.pending, [], captures⟩ := by
  refine evaluateAll_pending_nil (fun child hchild => ?_) captures
  obtain ⟨l, -, rfl⟩ := List.mem_map.1 hchild
  exact l.evaluate_matcher_nil t

/-- The presses that a wildcard has taken already come before those it takes. -/
theorem awaitTerminator_taken (t : Code) (run taken : List Event) (events : List Event) :
    awaitTerminator t (run ++ taken) events =
      { awaitTerminator t run events with
        captures := (awaitTerminator t run events).captures.map (taken.reverse ++ ·) } := by
  induction events generalizing run with
  | nil => rfl
  | cons e events ih =>
      simp only [awaitTerminator]
      split
      · split
        · simp
        · exact ih (e :: run)
      · exact ih run

/-- A wildcard accepts with one capture or is pending with none, at the end of the events. -/
theorem awaitTerminator_cases (t : Code) (run events : List Event) :
    (∃ rest taken, awaitTerminator t run events = ⟨.accept, rest, [taken]⟩) ∨
      awaitTerminator t run events = ⟨.pending, [], []⟩ := by
  induction events generalizing run with
  | nil => exact Or.inr rfl
  | cons e events ih =>
      simp only [awaitTerminator]
      split
      · split
        · exact Or.inl ⟨events, run.reverse, rfl⟩
        · exact ih (e :: run)
      · exact ih run

/-- What the rest of a row makes of the match of its first literal. -/
def Match.andThen (t : Code) (literals : List Literal) (m : Match) : Match :=
  if m.state = .reject then ⟨.reject, m.remainder, []⟩
  else Matcher.evaluateAll (literals.map (Literal.matcher t)) m

/-! ## A row reads one event at a time -/

section row

variable (t : Code) (l : Literal) (literals : List Literal) (events : List Event)

theorem evaluate_row_cons : (row t (l :: literals)).evaluate events =
    ((l.matcher t).evaluate events).andThen t literals := by
  simp [row, Matcher.evaluate, Matcher.evaluateAll, Match.andThen]

@[simp] theorem evaluate_row_nil : (row t []).evaluate events = ⟨.accept, events, []⟩ := by
  simp [row, Matcher.evaluate, Matcher.evaluateAll]

@[simp] theorem evaluate_row_cons_nil :
    (row t (l :: literals)).evaluate [] = ⟨.pending, [], []⟩ := by
  rw [evaluate_row_cons, l.evaluate_matcher_nil]
  exact evaluateAll_literals_nil t literals []

/-- Noise in front of a literal is skipped. -/
theorem evaluate_row_noise {e : Event} (h : e.isPress = false) :
    (row t (l :: literals)).evaluate (e :: events) = (row t (l :: literals)).evaluate events := by
  have ht : e.transition ≠ .press := by simpa [Event.isPress] using h
  have hl : (l.matcher t).evaluate (e :: events) = (l.matcher t).evaluate events := by
    cases l <;> simp [Literal.matcher, Matcher.evaluate, awaitButton, awaitTerminator, h, ht]
  rw [evaluate_row_cons, evaluate_row_cons, hl]

/-- The press that a button waits for. -/
@[simp] theorem evaluate_row_button (c : Code) :
    (row t (.button c :: literals)).evaluate (.press c :: events) =
      (row t literals).evaluate events := by
  simp [row, Matcher.evaluate, Matcher.evaluateAll, Literal.matcher, awaitButton, Event.press]

/-- A press of another key than the one a button waits for. -/
theorem evaluate_row_wrong {c k : Code} (h : k ≠ c) :
    (row t (.button c :: literals)).evaluate (.press k :: events) =
      ⟨.reject, .press k :: events, []⟩ := by
  simp [row, Matcher.evaluate, Matcher.evaluateAll, Literal.matcher, awaitButton, Event.press, h]

/-- The terminator ends a wildcard that has taken nothing. -/
@[simp] theorem evaluate_row_terminator :
    (row t (.wildcard :: literals)).evaluate (.press t :: events) =
      ((row t literals).evaluate events).prepend [[]] := by
  have hl : (Literal.wildcard.matcher t).evaluate (.press t :: events) =
      ⟨.accept, events, [[]]⟩ := by
    simp [Literal.matcher, Matcher.evaluate, awaitTerminator]
  rw [evaluate_row_cons, hl]
  exact evaluateAll_prepend _ _ _ [[]] []

/-- Any other press becomes the first of the wildcard's run. -/
theorem evaluate_row_taken {k : Code} (h : k ≠ t) :
    (row t (.wildcard :: literals)).evaluate (.press k :: events) =
      { (row t (.wildcard :: literals)).evaluate events with
        captures := ((row t (.wildcard :: literals)).evaluate events).captures.modifyHead
          (.press k :: ·) } := by
  have htaken : awaitTerminator t [] (.press k :: events) =
      { awaitTerminator t [] events with
        captures := (awaitTerminator t [] events).captures.map (.press k :: ·) } := by
    simpa [awaitTerminator, h] using awaitTerminator_taken t [] [.press k] events
  simp only [evaluate_row_cons, Literal.matcher, Matcher.evaluate, htaken]
  rcases awaitTerminator_cases t [] events with ⟨rest, taken, hrun⟩ | hrun
  · -- the run ends in these events: it is the first capture, whatever the row comes to
    have hmore (run : List Event) : Match.andThen t literals ⟨.accept, rest, [run]⟩ =
        ((row t literals).evaluate rest).prepend [run] :=
      evaluateAll_prepend _ _ _ [run] []
    simp [hrun, hmore, Match.prepend]
  · simp [hrun, Match.andThen, evaluateAll_literals_nil]

end row

end KeyChord.Pattern
