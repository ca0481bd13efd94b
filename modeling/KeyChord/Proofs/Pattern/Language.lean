import KeyChord.Proofs.Pattern.Viability

/-!
# The language of a row of literals

What an expression accepts, said without running it. The presses of the buffer must spell the row:
the key of each button, and for each wildcard a run of other keys and then the terminator. The runs
are what the wildcards capture. Noise may stand anywhere but at the end.

* `Spelt t literals runs codes`: the codes spell the literals, with `runs` for the wildcards.
* `Spelt.unique`: a spelling has only one set of runs.
* `SpeltBy t literals events captures`: the same for a buffer, with the runs as they are captured.
* `evaluate_row_eq_accept_iff`: a row accepts the whole of a buffer iff the buffer spells it.
* `Expression.accept_iff_spelt`: the same for the expression of a pattern text, with the captures
  as texts.
-/

namespace KeyChord.Pattern

open Key

/-- The codes spell the literals: a button is spelt by its key, a wildcard by a run without the
terminator and then the terminator. The runs are listed in the order of the wildcards. -/
inductive Spelt (t : Code) : List Literal → List (List Code) → List Code → Prop
  | nil : Spelt t [] [] []
  | button {literals : List Literal} {runs : List (List Code)} {codes : List Code} (c : Code)
      (h : Spelt t literals runs codes) : Spelt t (.button c :: literals) runs (c :: codes)
  | wildcard {literals : List Literal} {runs : List (List Code)} {codes run : List Code}
      (hrun : t ∉ run) (h : Spelt t literals runs codes) :
      Spelt t (.wildcard :: literals) (run :: runs) (run ++ t :: codes)

namespace Spelt

variable {t : Code} {literals : List Literal} {runs : List (List Code)} {codes : List Code}

/-- There is a run for each wildcard. -/
theorem length_runs (h : Spelt t literals runs codes) : runs.length = literals.count .wildcard := by
  induction h with
  | nil => rfl
  | button c _ ih => simpa using ih
  | wildcard _ _ ih => simpa using ih

/-- The key that meets a literal is among the codes. -/
theorem key_mem (h : Spelt t literals runs codes) {l : Literal} (hl : l ∈ literals) :
    (l.key t).code ∈ codes := by
  induction h with
  | nil => cases hl
  | button c _ ih =>
      rcases List.mem_cons.1 hl with rfl | hl
      · exact List.mem_cons_self
      · exact List.mem_cons_of_mem c (ih hl)
  | wildcard _ _ ih =>
      rcases List.mem_cons.1 hl with rfl | hl
      · exact List.mem_append_right _ List.mem_cons_self
      · exact List.mem_append_right _ (List.mem_cons_of_mem t (ih hl))

end Spelt

/-! ## Spelling one press at a time -/

section

variable {t : Code} {l : Literal} {literals : List Literal} {runs : List (List Code)}
  {codes : List Code}

theorem spelt_nil_iff : Spelt t [] runs codes ↔ runs = [] ∧ codes = [] := by
  constructor
  · intro h
    cases h
    exact ⟨rfl, rfl⟩
  · rintro ⟨rfl, rfl⟩
    exact .nil

/-- A literal takes at least one press. -/
theorem not_spelt_cons_nil : ¬ Spelt t (l :: literals) runs [] := by
  intro h
  generalize hcodes : ([] : List Code) = codes at h
  cases h with
  | button _ _ => cases hcodes
  | wildcard _ _ => simp at hcodes

theorem Spelt.exists_run (h : Spelt t (.wildcard :: literals) runs codes) :
    ∃ run later, runs = run :: later := by
  cases h with
  | @wildcard _ later _ run _ _ => exact ⟨run, later, rfl⟩

theorem spelt_button_iff {c k : Code} :
    Spelt t (.button c :: literals) runs (k :: codes) ↔ k = c ∧ Spelt t literals runs codes := by
  constructor
  · intro h
    cases h with
    | button _ h => exact ⟨rfl, h⟩
  · rintro ⟨rfl, h⟩
    exact .button k h

/-- The terminator ends the run at once. -/
theorem spelt_terminator_iff :
    Spelt t (.wildcard :: literals) runs (t :: codes) ↔
      ∃ later, runs = [] :: later ∧ Spelt t literals later codes := by
  constructor
  · intro h
    generalize hcodes : t :: codes = all at h
    cases h with
    | @wildcard _ later codes' run hrun h =>
        cases run with
        | nil =>
            cases hcodes
            exact ⟨later, rfl, h⟩
        | cons k run =>
            obtain ⟨rfl, -⟩ := List.cons.inj hcodes
            exact absurd List.mem_cons_self hrun
  · rintro ⟨later, rfl, h⟩
    rw [← List.nil_append (t :: codes)]
    exact .wildcard List.not_mem_nil h

/-- Any other press is the first of the run. -/
theorem spelt_taken_iff {k : Code} (hk : k ≠ t) :
    Spelt t (.wildcard :: literals) runs (k :: codes) ↔
      ∃ run later, runs = (k :: run) :: later ∧
        Spelt t (.wildcard :: literals) (run :: later) codes := by
  constructor
  · intro h
    generalize hcodes : k :: codes = all at h
    cases h with
    | @wildcard _ later codes' run hrun h =>
        cases run with
        | nil => exact absurd (List.cons.inj hcodes).1 hk
        | cons k' run =>
            obtain ⟨rfl, rfl⟩ := List.cons.inj hcodes
            exact ⟨run, later, rfl, .wildcard (mt (List.mem_cons_of_mem k) hrun) h⟩
  · rintro ⟨run, later, rfl, h⟩
    cases h with
    | wildcard hrun h =>
        have hmem : t ∉ k :: run := by simp [hrun, Ne.symm hk]
        exact .wildcard hmem h

/-- **The runs are determined by the codes**: each ends where the terminator first comes. -/
theorem Spelt.unique {runs' : List (List Code)} (h : Spelt t literals runs codes)
    (h' : Spelt t literals runs' codes) : runs = runs' := by
  induction codes generalizing literals runs runs' with
  | nil =>
      cases literals with
      | nil => rw [(spelt_nil_iff.1 h).1, (spelt_nil_iff.1 h').1]
      | cons l literals => exact absurd h not_spelt_cons_nil
  | cons k codes ih =>
      rcases literals with _ | ⟨c | _, literals⟩
      · cases (spelt_nil_iff.1 h).2
      · exact ih (spelt_button_iff.1 h).2 (spelt_button_iff.1 h').2
      · by_cases hk : k = t
        · subst hk
          obtain ⟨later, hruns, hrest⟩ := spelt_terminator_iff.1 h
          obtain ⟨later', hruns', hrest'⟩ := spelt_terminator_iff.1 h'
          rw [hruns, hruns', ih hrest hrest']
        · obtain ⟨run, later, hruns, hrest⟩ := (spelt_taken_iff hk).1 h
          obtain ⟨run', later', hruns', hrest'⟩ := (spelt_taken_iff hk).1 h'
          obtain ⟨rfl, rfl⟩ := List.cons.inj (ih hrest hrest')
          rw [hruns, hruns']

end

/-! ## Spelling one event at a time -/

/-- The presses of the events spell the literals, the last event is no noise, and the captures are
the runs of the spelling. -/
def SpeltBy (t : Code) (literals : List Literal) (events : List Event)
    (captures : List (List Event)) : Prop :=
  (events = [] ∨ EndsInPress events) ∧
    ∃ runs, Spelt t literals runs (presses events) ∧
      captures = runs.map fun run => run.map Event.press

section

variable {t : Code} {l : Literal} {literals : List Literal} {events : List Event}
  {captures : List (List Event)}

theorem speltBy_nil_iff : SpeltBy t literals [] captures ↔ literals = [] ∧ captures = [] := by
  rcases literals with _ | ⟨l, literals⟩
  · simp [SpeltBy, spelt_nil_iff]
  · simp [SpeltBy, not_spelt_cons_nil]

/-- After the last literal there is no place for a last press. -/
theorem not_speltBy_nil_cons {e : Event} : ¬ SpeltBy t [] (e :: events) captures := by
  rintro ⟨hend, runs, hspelt, -⟩
  have hpress := hend.resolve_left (List.cons_ne_nil e events)
  exact hpress.presses_ne_nil (spelt_nil_iff.1 hspelt).2

theorem speltBy_noise_iff {e : Event} (he : e.isPress = false) :
    SpeltBy t (l :: literals) (e :: events) captures ↔
      SpeltBy t (l :: literals) events captures := by
  have hend : (e :: events = [] ∨ EndsInPress (e :: events)) ↔ EndsInPress events := by
    simp [endsInPress_noise_cons he]
  rw [SpeltBy, SpeltBy, hend, presses_cons_of_not_press he]
  refine and_congr_left fun hspelt => ?_
  rcases events with _ | ⟨e', events⟩
  · obtain ⟨runs, hspelt, -⟩ := hspelt
    exact absurd hspelt not_spelt_cons_nil
  · simp

/-- A press may be the last event. -/
theorem clean_press_iff {k : Code} :
    (Event.press k :: events = [] ∨ EndsInPress (.press k :: events)) ↔
      (events = [] ∨ EndsInPress events) := by
  simp [endsInPress_press_cons]

theorem speltBy_button_iff {c k : Code} :
    SpeltBy t (.button c :: literals) (.press k :: events) captures ↔
      k = c ∧ SpeltBy t literals events captures := by
  simp only [SpeltBy, clean_press_iff, presses_press_cons, spelt_button_iff, and_assoc,
    exists_and_left]
  exact and_left_comm

theorem speltBy_terminator_iff :
    SpeltBy t (.wildcard :: literals) (.press t :: events) captures ↔
      ∃ later, captures = [] :: later ∧ SpeltBy t literals events later := by
  rw [SpeltBy, clean_press_iff, presses_press_cons]
  simp only [spelt_terminator_iff]
  constructor
  · rintro ⟨hclean, _, ⟨later, rfl, hspelt⟩, rfl⟩
    exact ⟨_, rfl, hclean, later, hspelt, rfl⟩
  · rintro ⟨_, rfl, hclean, later, hspelt, rfl⟩
    exact ⟨hclean, [] :: later, ⟨later, rfl, hspelt⟩, rfl⟩

theorem speltBy_taken_iff {k : Code} (hk : k ≠ t) :
    SpeltBy t (.wildcard :: literals) (.press k :: events) captures ↔
      ∃ run later, captures = (.press k :: run) :: later ∧
        SpeltBy t (.wildcard :: literals) events (run :: later) := by
  rw [SpeltBy, clean_press_iff, presses_press_cons]
  constructor
  · rintro ⟨hclean, runs, hspelt, rfl⟩
    obtain ⟨run, later, rfl, hrest⟩ := (spelt_taken_iff hk).1 hspelt
    exact ⟨_, _, rfl, hclean, run :: later, hrest, rfl⟩
  · rintro ⟨_, _, rfl, hclean, runs, hspelt, hruns⟩
    obtain ⟨run, later, rfl⟩ := hspelt.exists_run
    obtain ⟨rfl, rfl⟩ := List.cons.inj hruns
    exact ⟨hclean, (k :: run) :: later, (spelt_taken_iff hk).2 ⟨run, later, rfl, hspelt⟩, rfl⟩

theorem SpeltBy.exists_run (h : SpeltBy t (.wildcard :: literals) events captures) :
    ∃ run later, captures = run :: later := by
  obtain ⟨-, runs, hspelt, rfl⟩ := h
  obtain ⟨run, later, rfl⟩ := hspelt.exists_run
  exact ⟨_, _, rfl⟩

/-! ## Accepting is being spelt -/

/-- **A row accepts the whole of a buffer iff the buffer spells it.** The captures are the runs. -/
theorem evaluate_row_eq_accept_iff :
    (row t literals).evaluate events = ⟨.accept, [], captures⟩ ↔
      SpeltBy t literals events captures := by
  induction events generalizing literals captures with
  | nil =>
      rw [speltBy_nil_iff]
      rcases literals with _ | ⟨l, literals⟩
      · simp [eq_comm]
      · simp
  | cons e events ih =>
      rcases literals with _ | ⟨l, literals⟩
      · simp [not_speltBy_nil_cons]
      rcases e.eq_press_or_not with ⟨k, rfl⟩ | hnoise
      · cases l with
        | button c =>
            rw [speltBy_button_iff]
            by_cases hk : k = c
            · subst hk
              rw [evaluate_row_button, ih, and_iff_right rfl]
            · simp [evaluate_row_wrong t literals events hk, hk]
        | wildcard =>
            by_cases hk : k = t
            · subst hk
              rw [evaluate_row_terminator, Match.prepend_eq_iff, speltBy_terminator_iff]
              simp only [ih]
            · rw [evaluate_row_taken t literals events hk, speltBy_taken_iff hk]
              constructor
              · intro hm
                rcases hrest : (row t (.wildcard :: literals)).evaluate events with ⟨s, rest, taken⟩
                rw [hrest] at hm
                obtain ⟨rfl, rfl, rfl⟩ := Match.mk.inj hm
                have hby := ih.1 hrest
                obtain ⟨run, later, rfl⟩ := hby.exists_run
                exact ⟨run, later, rfl, hby⟩
              · rintro ⟨run, later, rfl, hby⟩
                rw [ih.2 hby]
                rfl
      · rw [evaluate_row_noise t l literals events hnoise, ih, speltBy_noise_iff hnoise]

end

/-! ## Expressions -/

namespace Expression

/-- The text of a run of presses: what each key stands for, and nothing for a key that stands for
no text. -/
theorem render_presses (x : Expression) (run : List Code) :
    x.render (run.map Event.press) =
      String.join (run.map fun c => (x.translator.render? c).getD "") := by
  rw [render, List.map_map]
  rfl

theorem state_eq_accept_iff (x : Expression) (events : List Event) :
    (x.process events).state = .accept ↔
      ∃ captures, x.matcher.evaluate events = ⟨.accept, [], captures⟩ := by
  unfold process
  rcases x.matcher.evaluate events with ⟨s, rest, captures⟩
  by_cases hrest : rest = []
  · simp [hrest]
  · simp [hrest]

namespace MatchesAs

variable {x : Expression} {t : Code} {literals : List Literal} (h : x.MatchesAs t literals)

include h

theorem accept_iff (events : List Event) :
    (x.process events).state = .accept ↔
      EndsInPress events ∧ ∃ runs, Spelt t literals runs (presses events) := by
  simp only [state_eq_accept_iff, h.evaluate_eq, evaluate_row_eq_accept_iff]
  constructor
  · rintro ⟨_, hend, runs, hspelt, -⟩
    refine ⟨hend.resolve_left ?_, runs, hspelt⟩
    rintro rfl
    obtain ⟨l, literals', rfl⟩ := List.exists_cons_of_ne_nil h.nonempty
    exact not_spelt_cons_nil hspelt
  · rintro ⟨hend, runs, hspelt⟩
    exact ⟨_, Or.inr hend, runs, hspelt, rfl⟩

/-- What the matcher captures from a buffer that is accepted are the runs of its spelling. -/
theorem captures_eq {events : List Event} {runs : List (List Code)}
    (haccept : (x.process events).state = .accept)
    (hspelt : Spelt t literals runs (presses events)) :
    (x.matcher.evaluate events).captures = runs.map fun run => run.map Event.press := by
  obtain ⟨captures, hm⟩ := (state_eq_accept_iff x events).1 haccept
  obtain ⟨-, runs', hspelt', hcaptures⟩ := evaluate_row_eq_accept_iff.1 (h.evaluate_eq events ▸ hm)
  rw [hm, hcaptures, hspelt'.unique hspelt]

end MatchesAs

/-- **Acceptance and captures are the declared language.** The expression of a pattern text accepts
a buffer iff the last event is a press and the presses spell its literals. There is then one set of
runs that they spell them with, a run for each star of the text; the matcher captures these runs
as presses, and the expression answers their texts. -/
theorem accept_iff_spelt {pattern : String} {terminator : Code} {t : Translator} {x : Expression}
    (h : ofText pattern terminator t = .ok x) :
    ∃ literals : List Literal, literals ≠ [] ∧ x.matcher = row terminator literals ∧
      ∀ events : List Event,
        ((x.process events).state = .accept ↔
          EndsInPress events ∧ ∃ runs, Spelt terminator literals runs (presses events)) ∧
        ((x.process events).state = .accept →
          ∃ runs, Spelt terminator literals runs (presses events) ∧
            (∀ runs', Spelt terminator literals runs' (presses events) → runs' = runs) ∧
            runs.length = pattern.toList.count '*' ∧
            (x.matcher.evaluate events).captures = (runs.map fun run => run.map Event.press) ∧
            (x.process events).captures =
              runs.map fun run => String.join (run.map fun c => (t.render? c).getD "")) := by
  obtain ⟨literals, hne, rfl, hstars⟩ := exists_row_of_ofText h
  have hmatches : MatchesAs ⟨pattern, row terminator literals, terminator, t⟩ terminator literals :=
    ⟨hne, fun _ => rfl⟩
  refine ⟨literals, hne, rfl, fun events => ⟨hmatches.accept_iff events, fun haccept => ?_⟩⟩
  obtain ⟨-, runs, hspelt⟩ := (hmatches.accept_iff events).1 haccept
  have hcaptures := hmatches.captures_eq haccept hspelt
  refine ⟨runs, hspelt, fun runs' hspelt' => hspelt'.unique hspelt, ?_, hcaptures, ?_⟩
  · rw [hspelt.length_runs, hstars]
  · change (Matcher.evaluate _ events).captures.map _ = _
    rw [hcaptures, List.map_map]
    exact List.map_congr_left fun run _ => render_presses _ run

/-- The button between two wildcards is on their terminator, and the second run is empty. -/
theorem accept_iff_spelt_two_wildcards :
    let x : Expression := ⟨"*<Enter>*", row 28 [.wildcard, .button 28, .wildcard], 28,
      Namespace.keyboard.translator⟩
    let events : List Event := [.press 30, .release 30, .press 28, .press 28, .press 28]
    ofText "*<Enter>*" 28 Namespace.keyboard.translator = .ok x ∧
    ∃ literals : List Literal, literals ≠ [] ∧ x.matcher = row 28 literals ∧
      ((x.process events).state = .accept ↔
        EndsInPress events ∧ ∃ runs, Spelt 28 literals runs (presses events)) ∧
      ∃ runs, Spelt 28 literals runs (presses events) ∧
        (∀ runs', Spelt 28 literals runs' (presses events) → runs' = runs) ∧
        runs.length = "*<Enter>*".toList.count '*' ∧
        (x.matcher.evaluate events).captures = (runs.map fun run => run.map Event.press) ∧
        (x.process events).captures = runs.map fun run =>
          String.join (run.map fun c => (Namespace.keyboard.translator.render? c).getD "") := by
  obtain ⟨literals, hne, hrow, hall⟩ := accept_iff_spelt ofText_two_wildcards
  refine ⟨ofText_two_wildcards, literals, hne, hrow, (hall _).1, (hall _).2 ?_⟩
  decide

end Expression

end KeyChord.Pattern
