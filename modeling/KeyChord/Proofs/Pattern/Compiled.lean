import KeyChord.Pattern.Expression
import KeyChord.Proofs.Pattern.Row
import Mathlib.Data.List.Forall2
import Mathlib.Data.List.TakeWhile
import Mathlib.Data.Nat.Init

/-!
# What a pattern text compiles to

A text that gives an expression is a row of written literals, each of which denotes a literal of
the compiled row: so an expression matches by one non-empty row, with a wildcard for each `*` of
its text.

* `Written node word`: the text `word` spells the literal `node`.
* `Denotes translator node l`: the literal `node` compiles to `l`.
* `Expression.exists_row_of_ofText`: the row of an expression.
* `Expression.Built`: the expressions there are; each matches as a non-empty row does
  (`Expression.Built.exists_matchesAs`).
-/

namespace KeyChord.Pattern

open Key

/-! ## Texts of literals -/

/-- The spelling of one literal. -/
inductive Written : Node → List Char → Prop
  | key {c : Char} (h : c.isAlphanum) : Written (.button (String.ofList [c])) [c]
  | named {name : List Char} (h : ∀ c ∈ name, isNameChar c) :
      Written (.button (String.ofList name)) ('<' :: name ++ ['>'])
  | wildcard : Written .wildcard ['*']

/-- A literal that is read stands at the front of the text. -/
theorem written_of_readLiteral? {s rest : List Char} {node : Node}
    (h : readLiteral? s = some (node, rest)) : ∃ word, s = word ++ rest ∧ Written node word := by
  unfold readLiteral? at h
  split at h
  · cases h
  · cases h
    exact ⟨['*'], rfl, .wildcard⟩
  · rename_i inner
    split at h
    · rename_i r hdrop
      cases h
      refine ⟨'<' :: inner.takeWhile isNameChar ++ ['>'], ?_, .named fun c hc => ?_⟩
      · have hsplit := List.takeWhile_append_dropWhile (p := isNameChar) (l := inner)
        rw [hdrop] at hsplit
        simp [hsplit]
      · exact List.mem_takeWhile_imp hc
    · cases h
  · rename_i c r _ _
    split at h
    · rename_i hc
      cases h
      exact ⟨[c], rfl, .key hc⟩
    · cases h

/-- What reading takes from the front of a text spells the literals it answers. -/
theorem readLiterals_written (s : List Char) :
    ∃ words : List (List Char), s = words.flatten ++ (readLiterals s).2 ∧
      List.Forall₂ Written (readLiterals s).1 words := by
  induction hn : s.length using Nat.strong_induction_on generalizing s with
  | _ n ih =>
      cases hread : readLiteral? s with
      | none =>
          rw [readLiterals_of_none hread]
          exact ⟨[], rfl, .nil⟩
      | some found =>
          obtain ⟨node, rest⟩ := found
          have hlt := length_lt_of_readLiteral? hread
          obtain ⟨word, hs, hword⟩ := written_of_readLiteral? hread
          obtain ⟨words, hrest, hwords⟩ := ih rest.length (by omega) rest rfl
          rw [readLiterals_of_some hread]
          refine ⟨word :: words, ?_, .cons hword hwords⟩
          rw [List.flatten_cons, List.append_assoc, ← hrest, hs]

/-- A pattern is one row of literals, at least one, that spell the whole text. -/
theorem Node.ofText_eq_ok {text : String} {node : Node} (h : Node.ofText text = .ok node) :
    ∃ (items : List Node) (words : List (List Char)), node = .sequence items ∧ items ≠ [] ∧
      text.toList = words.flatten ∧ List.Forall₂ Written items words := by
  obtain ⟨words, hs, hwords⟩ := readLiterals_written text.toList
  unfold Node.ofText read at h
  rcases hread : readLiterals text.toList with ⟨items, rest⟩
  rw [hread] at h hs hwords
  cases items with
  | nil => cases h
  | cons item items =>
      simp only at h
      split at h
      · rename_i hrest
        cases h
        have hnil : rest = [] := by simpa using congrArg String.toList hrest
        subst hnil
        exact ⟨item :: items, words, rfl, by simp, by simpa using hs, hwords⟩
      · cases h

/-! ## Compiling literals -/

/-- The literal that a written literal compiles to. -/
inductive Denotes (t : Translator) : Node → Literal → Prop
  | button {name : String} {code : Code} (h : t.resolve? name = some code) :
      Denotes t (.button name) (.button code)
  | wildcard : Denotes t .wildcard .wildcard

theorem compile_written {terminator : Code} {t : Translator} {node : Node} {word : List Char}
    {m : Matcher} (hword : Written node word) (h : node.compile terminator t = .ok m) :
    ∃ l, m = Literal.matcher terminator l ∧ Denotes t node l := by
  have hbutton {name : String} (h : (Node.button name).compile terminator t = .ok m) :
      ∃ l, m = Literal.matcher terminator l ∧ Denotes t (.button name) l := by
    unfold Node.compile at h
    split at h
    · rename_i code hcode
      cases h
      exact ⟨.button code, rfl, .button hcode⟩
    · cases h
  cases hword with
  | key _ => exact hbutton h
  | named _ => exact hbutton h
  | wildcard =>
      cases h
      exact ⟨.wildcard, rfl, .wildcard⟩

/-- A row of written literals compiles to the row of what they denote. -/
theorem compileAll_written {terminator : Code} {t : Translator} {items : List Node}
    {words : List (List Char)} {ms : List Matcher} (hwords : List.Forall₂ Written items words)
    (h : Node.compileAll terminator t items = .ok ms) :
    ∃ literals : List Literal, ms = literals.map (Literal.matcher terminator) ∧
      List.Forall₂ (Denotes t) items literals := by
  induction hwords generalizing ms with
  | nil =>
      cases h
      exact ⟨[], rfl, .nil⟩
  | @cons item word items words hword _ ih =>
      unfold Node.compileAll at h
      cases hfirst : item.compile terminator t with
      | error e =>
          rw [hfirst] at h
          cases h
      | ok first =>
          cases hothers : Node.compileAll terminator t items with
          | error e =>
              rw [hfirst, hothers] at h
              cases h
          | ok others =>
              rw [hfirst, hothers] at h
              cases h
              obtain ⟨l, hl, hdenotes⟩ := compile_written hword hfirst
              obtain ⟨literals, hliterals, hall⟩ := ih hothers
              exact ⟨l :: literals, by rw [hl, hliterals, List.map_cons], .cons hdenotes hall⟩

/-! ## Stars are wildcards -/

/-- A written literal has a star if it denotes a wildcard, and else none. -/
theorem count_star_word {t : Translator} {node : Node} {word : List Char} {l : Literal}
    (hword : Written node word) (hl : Denotes t node l) :
    word.count '*' = [l].count .wildcard := by
  cases hword with
  | @key c hc =>
      cases hl
      have hne : c ≠ '*' := by
        rintro rfl
        cases hc
      simp [hne]
  | @named name hname =>
      cases hl
      have hnone : '*' ∉ name := by
        intro hmem
        cases hname '*' hmem
      simp [List.count_eq_zero.2 hnone]
  | wildcard =>
      cases hl
      rfl

theorem count_star_flatten {t : Translator} {items : List Node} {words : List (List Char)}
    {literals : List Literal} (hwords : List.Forall₂ Written items words)
    (hliterals : List.Forall₂ (Denotes t) items literals) :
    words.flatten.count '*' = literals.count .wildcard := by
  induction hwords generalizing literals with
  | nil =>
      cases hliterals
      rfl
  | cons hword _ ih =>
      cases hliterals with
      | @cons _ l _ literals hl hliterals =>
          rw [List.flatten_cons, List.count_append, ih hliterals, count_star_word hword hl,
            ← List.count_append, List.singleton_append]

/-! ## Expressions -/

namespace Expression

/-- **The expression of a text is its row.** At least one literal, and as many wildcards as the
text has stars. -/
theorem exists_row_of_ofText {pattern : String} {terminator : Code} {t : Translator}
    {x : Expression} (h : ofText pattern terminator t = .ok x) :
    ∃ literals : List Literal, literals ≠ [] ∧
      x = ⟨pattern, row terminator literals, terminator, t⟩ ∧
      literals.count .wildcard = pattern.toList.count '*' := by
  unfold ofText at h
  cases hnode : Node.ofText pattern with
  | error e =>
      rw [hnode] at h
      cases h
  | ok node =>
      obtain ⟨items, words, rfl, hitems, htext, hwords⟩ := Node.ofText_eq_ok hnode
      cases hms : Node.compileAll terminator t items with
      | error e =>
          simp only [hnode, bind, Except.bind, Node.compile, hms, Except.map] at h
          cases h
      | ok ms =>
          simp only [hnode, bind, Except.bind, Node.compile, hms, Except.map] at h
          cases h
          obtain ⟨literals, rfl, hliterals⟩ := compileAll_written hwords hms
          refine ⟨literals, ?_, rfl, ?_⟩
          · rintro rfl
            cases hliterals
            exact hitems rfl
          · rw [htext, count_star_flatten hwords hliterals]

/-- A text whose wildcards end at the key of the button between them. -/
theorem ofText_two_wildcards : ofText "*<Enter>*" 28 Namespace.keyboard.translator =
    .ok ⟨"*<Enter>*", row 28 [.wildcard, .button 28, .wildcard], 28,
      Namespace.keyboard.translator⟩ := by
  have hnode : Node.ofText "*<Enter>*" =
      .ok (.sequence [.wildcard, .button "Enter", .wildcard]) := by rfl
  have hkey : Namespace.keyboard.translator.resolve? "Enter" = some 28 := by decide +kernel
  simp only [ofText, hnode, bind, Except.bind, pure, Except.pure, Except.map, Node.compile,
    Node.compileAll, hkey, row, List.map_cons, List.map_nil, Literal.matcher]

/-- The expression makes of any buffer what a non-empty row of literals does. -/
structure MatchesAs (x : Expression) (t : Code) (literals : List Literal) : Prop where
  nonempty : literals ≠ []
  evaluate_eq : ∀ events, x.matcher.evaluate events = (row t literals).evaluate events

/-- The literals of a compiled text are those of its matcher. -/
theorem matchesAs_of_ofText {pattern : String} {terminator : Code} {t : Translator}
    {x : Expression} {literals : List Literal} (h : ofText pattern terminator t = .ok x)
    (hrow : x.matcher = row terminator literals) : x.MatchesAs terminator literals := by
  obtain ⟨literals', hne, rfl, -⟩ := exists_row_of_ofText h
  obtain rfl := row_inj.1 hrow
  exact ⟨hne, fun _ => rfl⟩

/-- The reset expression matches as a row of one wildcard. -/
theorem matchesAs_reset (code : Code) (t : Translator) :
    (reset code t).MatchesAs code [.wildcard] := by
  refine ⟨by simp, fun events => ?_⟩
  rw [evaluate_row_cons]
  rcases awaitTerminator_cases code [] events with ⟨rest, taken, hrun⟩ | hrun
  · simp [reset, Literal.matcher, Matcher.evaluate, hrun, Match.andThen, Matcher.evaluateAll]
  · simp [reset, Literal.matcher, Matcher.evaluate, hrun, Match.andThen, Matcher.evaluateAll]

/-- The expressions there are: those of pattern texts and those of reset keys. -/
inductive Built : Expression → Prop
  | ofText {pattern : String} {terminator : Code} {t : Translator} {x : Expression}
      (h : Expression.ofText pattern terminator t = .ok x) : Built x
  | reset (code : Code) (t : Translator) : Built (Expression.reset code t)

theorem Built.exists_matchesAs {x : Expression} (h : x.Built) :
    ∃ t literals, x.MatchesAs t literals := by
  cases h with
  | @ofText pattern terminator t _ h =>
      obtain ⟨literals, hne, rfl, -⟩ := exists_row_of_ofText h
      exact ⟨terminator, literals, hne, fun _ => rfl⟩
  | reset code t => exact ⟨code, [.wildcard], matchesAs_reset code t⟩

end Expression

end KeyChord.Pattern
