import KeyChord.Proofs.Dispatch.Reset
import KeyChord.Proofs.Pattern.Tree

/-!
# How much is buffered

A dispatcher keeps its buffer for as long as some binding may still accept it. A pattern without
wildcards that has not been accepted has met each press with a literal of its own and has a literal
left, so presses cannot pile up: there are always fewer than the longest pattern has literals.
Releases are not bounded, as a pattern that waits for a press skips any number of them.

* `Expression.Chord K x`: the pattern of `x` has at most `K` literals, and no wildcard.
* `length_add_presses_of_residual`: each press takes one literal of a row without wildcards.
* `Expression.Chord.presses_lt`: what a chord waits on has fewer presses than the chord has
  literals.
* `Dispatcher.run_presses_lt`: **the presses in the buffer are bounded after every operation.**
-/

namespace KeyChord

open Key Pattern Fallible

/-! ## Rows without wildcards -/

namespace Pattern

/-- The expressions of patterns without a star that have at most `K` literals. -/
inductive Expression.Chord (K : Nat) : Expression → Prop
  | ofText {pattern : String} {terminator : Code} {t : Translator} {x : Expression}
      {items : List Node} (h : Expression.ofText pattern terminator t = .ok x)
      (hstar : '*' ∉ pattern.toList) (hitems : Node.ofText pattern = .ok (.sequence items))
      (hlength : items.length ≤ K) : Chord K x

/-- **Each press takes one literal of a row without wildcards**, and noise takes none. -/
theorem length_add_presses_of_residual {t : Code} {literals left : List Literal}
    {events : List Event} (hliterals : .wildcard ∉ literals)
    (h : residual t literals events = some left) :
    left.length + (presses events).length = literals.length := by
  induction events generalizing literals with
  | nil =>
      obtain rfl := Option.some.inj h
      rfl
  | cons e events ih =>
      rw [residual_cons, Option.bind_eq_some_iff] at h
      obtain ⟨rest, hadvance, hrest⟩ := h
      rcases literals with _ | ⟨l, literals⟩
      · cases hadvance
      obtain ⟨hl, htail⟩ := not_or.1 (mt List.mem_cons.2 hliterals)
      rcases e.eq_press_or_not with ⟨k, rfl⟩ | hnoise
      · cases l with
        | wildcard => exact absurd rfl hl
        | button c =>
            have htaken : rest = literals := by
              by_cases hk : k = c <;> simp [advance, hk] at hadvance
              exact hadvance.symm
            subst htaken
            rw [presses_press_cons, List.length_cons, List.length_cons, ← Nat.add_assoc,
              ih htail hrest]
      · rw [advance_noise t l literals hnoise] at hadvance
        obtain rfl := Option.some.inj hadvance
        rw [presses_cons_of_not_press hnoise, ih hliterals hrest]

namespace Expression

/-- A pattern compiles to as many literals as it is read as. -/
theorem length_literals_of_ofText {pattern : String} {terminator : Code} {t : Translator}
    {x : Expression} {items : List Node} {literals : List Literal}
    (h : ofText pattern terminator t = .ok x)
    (hitems : Node.ofText pattern = .ok (.sequence items))
    (hrow : x.matcher = row terminator literals) : literals.length = items.length := by
  rw [ofText_of_spells (Node.ofText_sequence_iff.1 hitems), map_eq_ok_iff] at h
  obtain ⟨m, hm, rfl⟩ := h
  obtain rfl : m = row terminator literals := hrow
  cases (Node.compile_eq_ok_iff _).1 hm with
  | sequence hchildren => rw [hchildren.length_eq, List.length_map]

namespace Chord

variable {K : Nat} {x : Expression}

theorem exists_matchesAs (h : x.Chord K) :
    ∃ t literals, x.MatchesAs t literals ∧ .wildcard ∉ literals ∧ literals.length ≤ K := by
  cases h with
  | @ofText pattern terminator t _ items h hstar hitems hlength =>
      obtain ⟨literals, hne, rfl, hcount⟩ := exists_row_of_ofText h
      refine ⟨terminator, literals, ⟨hne, fun _ => rfl⟩, ?_, ?_⟩
      · rw [← List.count_eq_zero, hcount, List.count_eq_zero]
        exact hstar
      · rw [length_literals_of_ofText h hitems rfl]
        exact hlength

/-- **What a chord waits on has fewer presses than the chord has literals.** -/
theorem presses_lt (h : x.Chord K) {events : List Event}
    (hpending : (x.process events).state = .pending) : (presses events).length < K := by
  obtain ⟨t, literals, hmatches, hliterals, hlength⟩ := h.exists_matchesAs
  rw [hmatches.state_eq, stateOf_eq_pending] at hpending
  obtain ⟨l, left, hleft⟩ := hpending
  have hcount := length_add_presses_of_residual hliterals hleft
  rw [List.length_cons] at hcount
  omega

end Chord

end Expression

end Pattern

/-! ## Dispatchers -/

namespace Dispatcher

variable {α σ ε : Type}

/-- As long as all bindings are chords, the buffer holds fewer presses than the longest of them has
literals. -/
theorem Coherent.presses_lt {rc : Code} {d : Dispatcher α} (h : Coherent rc d) {K : Nat}
    (hK : 1 ≤ K) (hbindings : ∀ b ∈ d.bindings, b.expression.Chord K) :
    (presses d.buffer).length < K := by
  by_cases hbuffer : d.buffer = []
  · rw [hbuffer]
    exact hK
  · obtain ⟨b, hb, hpending⟩ := h.awaited hbuffer
    exact (hbindings b hb).presses_lt hpending

/-- Without bindings nothing is kept. -/
theorem Coherent.buffer_eq_nil {rc : Code} {d : Dispatcher α} (h : Coherent rc d)
    (hbindings : d.bindings = []) : d.buffer = [] := by
  by_contra hbuffer
  obtain ⟨b, hb, -⟩ := h.awaited hbuffer
  rw [hbindings] at hb
  cases hb

/-- **The presses in the buffer are bounded by the longest pattern.** Whatever is done to a new
dispatcher, in any order, as long as only patterns without a star and with at most `K` literals are
bound: after every operation the buffer holds fewer than `K` presses, and nothing at all while there
is no binding. -/
theorem run_presses_lt (invoke : α → List String → StateM σ (Completion ε)) (message : ε → String)
    (rc : Code) (t : Translator) {K : Nat} (hK : 1 ≤ K) (ops : List (Operation α))
    (hops : ∀ b, .bind b ∈ ops → b.expression.Chord K) (s : σ) :
    ∀ front, front <+: ops →
      let d := (((new (Expression.reset rc t)).run invoke message front).run s).1.2
      (presses d.buffer).length < K ∧ (d.bindings = [] → d.buffer = []) := by
  intro front hfront d
  have hd : d = (new (Expression.reset rc t)).afterAll front :=
    ((new (Expression.reset rc t)).run_spec invoke message front s).1
  have hcoherent : Coherent rc d := hd ▸ (Coherent.new rc t).afterAll front
  have hbindings : ∀ b ∈ d.bindings, b.expression.Chord K := by
    intro b hb
    rw [hd] at hb
    rcases mem_bindings_afterAll hb with hmem | hbind
    · cases hmem
    · exact hops b (hfront.subset hbind)
  exact ⟨hcoherent.presses_lt hK hbindings, hcoherent.buffer_eq_nil⟩

/-- A chord of two keys and a binding that comes late: one press and any number of releases are kept
for them. -/
theorem run_presses_lt_two_keys :
    let t := Namespace.keyboard.translator
    let b : Binding Unit := ⟨⟨"ab", row 28 [.button 30, .button 48], 28, t⟩, ()⟩
    let record (_ : Unit) (captures : List String) :
        StateM (List (List String)) (Completion String) :=
      fun written => (.done, written ++ [captures])
    let ops : List (Operation Unit) :=
      [.bind b, .event (.press 30), .event (.release 30), .bind b, .event (.release 30)]
    let d := (((new (Expression.reset 1 t)).run record id ops).run []).1.2
    (∀ b', .bind b' ∈ ops → b'.expression.Chord 2) ∧ (presses d.buffer).length < 2 ∧
    d.buffer = [.press 30, .release 30, .release 30] := by
  intro t b record ops
  have hitems : Node.ofText "ab" = .ok (.sequence [.button "a", .button "b"]) := by rfl
  have ha : t.resolve? "a" = some 30 := by decide +kernel
  have hb : t.resolve? "b" = some 48 := by decide +kernel
  have htext : Expression.ofText "ab" 28 t = .ok b.expression := by
    have hshape : Node.CompilesTo 28 t (.sequence [.button "a", .button "b"])
        (row 28 [.button 30, .button 48]) :=
      .sequence (.cons (.button ha) (.cons (.button hb) .nil))
    rw [Expression.ofText_of_spells (Node.ofText_sequence_iff.1 hitems), map_eq_ok_iff]
    exact ⟨_, (Node.compile_eq_ok_iff _).2 hshape, rfl⟩
  have hchord : b.expression.Chord 2 := .ofText htext (by decide) hitems (by decide)
  have hops : ∀ b', .bind b' ∈ ops → b'.expression.Chord 2 := by
    intro b' hb'
    obtain rfl : b' = b := by simpa [ops] using hb'
    exact hchord
  exact ⟨hops, (run_presses_lt record id 1 t (by decide) ops hops [] ops List.prefix_rfl).1,
    by decide +kernel⟩

end Dispatcher

end KeyChord
