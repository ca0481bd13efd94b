import KeyChord.Proofs.Key.Spelling
import KeyChord.Proofs.Pattern.Tree

/-!
# How a pattern is spelt

A key may be written in capital or small letters, and one whose name is a single letter or digit
with or without brackets. None of this shows once the names have been looked up: two patterns whose
literals agree up to the case of letters have one matcher, or fail at the same literal. Nor does the
case of letters decide what is a pattern, although reading does not know that letters have a case.

* `Node.Alike`: both literals are wildcards, or both are buttons with names that differ in the case
  of letters only.
* `compileAll_of_alike`: rows of alike literals compile to the same matchers or fail at the same
  place.
* `Spells.of_sameLetters`: changing the case of letters changes a pattern to one with alike
  literals.
* `Expression.ofText_spelling`: **the spelling of a pattern does not change what it matches.**
-/

namespace KeyChord.Pattern

open Key

/-- Literals that differ at most in the case of letters. -/
inductive Node.Alike : Node → Node → Prop
  | button {a b : String} (h : SameLetters a b) : Alike (.button a) (.button b)
  | wildcard : Alike .wildcard .wildcard

/-- The literal at this place is the first whose name means nothing. -/
structure UnknownAt (t : Translator) (items : List Node) (i : Nat) (name : String) : Prop where
  get_eq : items[i]? = some (.button name)
  unknown : t.resolve? name = none
  known : ∀ j < i, ∀ earlier, items[j]? = some (.button earlier) →
    ∃ code, t.resolve? earlier = some code

/-! ## Alike literals compile alike -/

/-- Alike literals compile to the same matcher, or have names that mean nothing. -/
theorem Node.Alike.compile_cases {item item' : Node} (h : item.Alike item') (n : Namespace)
    (terminator : Code) :
    (∃ m, item.compile terminator n.translator = .ok m ∧
      item'.compile terminator n.translator = .ok m) ∨
    ∃ name name', item = .button name ∧ item' = .button name' ∧
      n.resolve? name = none ∧ n.resolve? name' = none := by
  cases h with
  | wildcard => exact Or.inl ⟨.wildcard terminator, rfl, rfl⟩
  | @button a b h =>
      have hsame := Namespace.resolve?_congr (n := n) h
      cases hb : n.resolve? b with
      | none => exact Or.inr ⟨a, b, rfl, rfl, hsame.trans hb, hb⟩
      | some code =>
          exact Or.inl ⟨.button code .press,
            Node.compile_button_eq_ok_iff.2 ⟨code, hsame.trans hb, rfl⟩,
            Node.compile_button_eq_ok_iff.2 ⟨code, hb, rfl⟩⟩

/-- A first literal whose name means nothing. -/
theorem UnknownAt.head {t : Translator} {name : String} (h : t.resolve? name = none)
    (items : List Node) : UnknownAt t (.button name :: items) 0 name :=
  ⟨rfl, h, nofun⟩

/-- A literal that compiles may stand before. -/
theorem UnknownAt.cons {t : Translator} {terminator : Code} {item : Node} {items : List Node}
    {i : Nat} {name : String} {m : Matcher} (hitem : item.compile terminator t = .ok m)
    (h : UnknownAt t items i name) :
    UnknownAt t (item :: items) (i + 1) name where
  get_eq := h.get_eq
  unknown := h.unknown
  known := by
    intro j hj earlier hearlier
    cases j with
    | zero =>
        obtain rfl := Option.some.inj hearlier
        obtain ⟨code, hcode, -⟩ := Node.compile_button_eq_ok_iff.1 hitem
        exact ⟨code, hcode⟩
    | succ j => exact h.known j (by omega) earlier hearlier

/-- **Rows of alike literals compile to the same matchers, or fail at the same place.** -/
theorem compileAll_of_alike (n : Namespace) (terminator : Code) {items items' : List Node}
    (h : List.Forall₂ Node.Alike items items') :
    (∃ i name name', UnknownAt n.translator items i name ∧ UnknownAt n.translator items' i name' ∧
      Node.compileAll terminator n.translator items = .error (.unknownName name) ∧
      Node.compileAll terminator n.translator items' = .error (.unknownName name')) ∨
    ∃ ms, Node.compileAll terminator n.translator items = .ok ms ∧
      Node.compileAll terminator n.translator items' = .ok ms := by
  induction h with
  | nil => exact Or.inr ⟨[], rfl, rfl⟩
  | cons hitem _ ih =>
      rcases hitem.compile_cases n terminator with
        ⟨m, hm, hm'⟩ | ⟨name, name', rfl, rfl, hname, hname'⟩
      · rcases ih with ⟨i, name, name', hat, hat', hfail, hfail'⟩ | ⟨ms, hms, hms'⟩
        · exact Or.inl ⟨i + 1, name, name', hat.cons hm, hat'.cons hm',
            Node.compileAll_cons_eq_error_iff.2 (Or.inr ⟨⟨m, hm⟩, hfail⟩),
            Node.compileAll_cons_eq_error_iff.2 (Or.inr ⟨⟨m, hm'⟩, hfail'⟩)⟩
        · exact Or.inr ⟨m :: ms, Node.compileAll_cons_eq_ok_iff.2 ⟨m, ms, hm, hms, rfl⟩,
            Node.compileAll_cons_eq_ok_iff.2 ⟨m, ms, hm', hms', rfl⟩⟩
      · have hfail {name : String} (h : n.resolve? name = none) (items : List Node) :
            Node.compileAll terminator n.translator (.button name :: items) =
              .error (.unknownName name) :=
          Node.compileAll_cons_eq_error_iff.2
            (Or.inl (Node.compile_button_eq_error_iff.2 ⟨h, rfl⟩))
        exact Or.inl ⟨0, name, name', .head hname _, .head hname' _, hfail hname _,
          hfail hname' _⟩

/-! ## Case does not decide what is a pattern -/

/-- A spelling with letters of the other case spells an alike literal. -/
theorem Written.of_asciiLower_eq {node : Node} {word word' : List Char} (h : Written node word)
    (hsame : Text.asciiLower word' = Text.asciiLower word) :
    ∃ node', Written node' word' ∧ node.Alike node' := by
  unfold Text.asciiLower at hsame
  cases h with
  | @key c hc =>
      obtain ⟨d, rfl, hd⟩ := List.map_eq_singleton_iff.1 hsame
      have halnum : ∀ k : Char, k.isAlpha → k.isAlphanum := by
        intro k hk
        simp [Char.isAlphanum, hk]
      refine ⟨_, .key (of_toLower_eq halnum hc hd), .button ?_⟩
      simp [SameLetters, Text.asciiLower, hd]
  | @named name hname =>
      rw [List.cons_append, List.map_cons, List.map_append, List.map_eq_cons_iff] at hsame
      obtain ⟨opening, inner, rfl, hopening, hinner⟩ := hsame
      obtain ⟨name', last, rfl, hname', hlast⟩ := List.map_eq_append_iff.1 hinner
      obtain ⟨closing, rfl, hclosing⟩ := List.map_eq_singleton_iff.1 hlast
      obtain rfl := eq_of_toLower_eq (c := '<') (by decide) hopening
      obtain rfl := eq_of_toLower_eq (c := '>') (by decide) hclosing
      refine ⟨_, .named fun d hd => ?_, .button ?_⟩
      · have hmem : d.toLower ∈ name.map Char.toLower := hname' ▸ List.mem_map_of_mem hd
        obtain ⟨c, hc, hdc⟩ := List.mem_map.1 hmem
        exact of_toLower_eq (fun k hk => by simp [isNameChar, Char.isAlphanum, hk]) (hname c hc)
          hdc.symm
      · simp [SameLetters, Text.asciiLower, hname']
  | wildcard =>
      obtain ⟨d, rfl, hd⟩ := List.map_eq_singleton_iff.1 hsame
      obtain rfl := eq_of_toLower_eq (c := '*') (by decide) hd
      exact ⟨_, .wildcard, .wildcard⟩

/-- So does a row of spellings, spelling by spelling. -/
theorem forall₂_written_of_asciiLower_eq {items : List Node} {words : List (List Char)}
    (h : List.Forall₂ Written items words) {s : List Char}
    (hsame : Text.asciiLower s = Text.asciiLower words.flatten) :
    ∃ items' words', List.Forall₂ Written items' words' ∧ s = words'.flatten ∧
      List.Forall₂ Node.Alike items items' := by
  induction h generalizing s with
  | nil =>
      obtain rfl := List.map_eq_nil_iff.1 hsame
      exact ⟨[], [], .nil, rfl, .nil⟩
  | cons hword _ ih =>
      unfold Text.asciiLower at hsame
      rw [List.flatten_cons, List.map_append, List.map_eq_append_iff] at hsame
      obtain ⟨word', rest, rfl, hword', hrest⟩ := hsame
      obtain ⟨node', hwritten, halike⟩ := hword.of_asciiLower_eq hword'
      obtain ⟨items', words', hwords', rfl, halikes⟩ := ih hrest
      exact ⟨node' :: items', word' :: words', .cons hwritten hwords', rfl, .cons halike halikes⟩

/-- **Changing the case of letters changes a pattern to one with alike literals.** -/
theorem Spells.of_sameLetters {a b : String} {items : List Node} (h : Spells a items)
    (hsame : SameLetters b a) :
    ∃ items', Spells b items' ∧ List.Forall₂ Node.Alike items items' := by
  obtain ⟨hitems, words, hwords, htext⟩ := h
  unfold SameLetters at hsame
  rw [htext] at hsame
  obtain ⟨items', words', hwords', htext', halike⟩ :=
    forall₂_written_of_asciiLower_eq hwords hsame
  refine ⟨items', ⟨?_, words', hwords', htext'⟩, halike⟩
  rintro rfl
  exact hitems (List.forall₂_nil_right_iff.1 halike)

theorem Node.exists_ofText_of_sameLetters {a b : String} (hsame : SameLetters b a)
    (h : ∃ node, Node.ofText a = .ok node) : ∃ node, Node.ofText b = .ok node := by
  obtain ⟨node, hnode⟩ := h
  obtain ⟨items, rfl, hspells⟩ := Node.ofText_eq_ok_iff_spells.1 hnode
  obtain ⟨items', hspells', -⟩ := hspells.of_sameLetters hsame
  exact ⟨_, Node.ofText_eq_ok_iff_spells.2 ⟨items', rfl, hspells'⟩⟩

/-! ## Expressions -/

/-- **The spelling of a pattern does not change what it matches.** If the literals of two patterns
are alike one by one, looking up their names in a namespace fails in both at the same literal, or
both give expressions with one matcher, which answer every buffer alike. And a text that differs
from another in the case of letters only is a pattern if the other one is, with alike literals. -/
theorem Expression.ofText_spelling (terminator : Code) (n : Namespace) (a b : String) :
    (∀ items items', Node.ofText a = .ok (.sequence items) →
      Node.ofText b = .ok (.sequence items') → List.Forall₂ Node.Alike items items' →
        (∃ i name name', UnknownAt n.translator items i name ∧
          UnknownAt n.translator items' i name' ∧
          ofText a terminator n.translator = .error (.unknownName name) ∧
          ofText b terminator n.translator = .error (.unknownName name')) ∨
        ∃ x y, ofText a terminator n.translator = .ok x ∧
          ofText b terminator n.translator = .ok y ∧ x.matcher = y.matcher ∧
          ∀ events, x.matcher.evaluate events = y.matcher.evaluate events ∧
            x.process events = y.process events) ∧
    (SameLetters a b →
      ((∃ node, Node.ofText a = .ok node) ↔ ∃ node, Node.ofText b = .ok node) ∧
      ∀ items items', Node.ofText a = .ok (.sequence items) →
        Node.ofText b = .ok (.sequence items') → List.Forall₂ Node.Alike items items') := by
  constructor
  · intro items items' ha hb halike
    rw [ofText_of_spells (Node.ofText_sequence_iff.1 ha),
      ofText_of_spells (Node.ofText_sequence_iff.1 hb), Node.compile, Node.compile]
    rcases compileAll_of_alike n terminator halike with
      ⟨i, name, name', hat, hat', hfail, hfail'⟩ | ⟨ms, hms, hms'⟩
    · rw [hfail, hfail']
      exact Or.inl ⟨i, name, name', hat, hat', rfl, rfl⟩
    · rw [hms, hms']
      exact Or.inr ⟨_, _, rfl, rfl, rfl, fun events => ⟨rfl, rfl⟩⟩
  · intro hsame
    refine ⟨⟨Node.exists_ofText_of_sameLetters hsame.symm, Node.exists_ofText_of_sameLetters hsame⟩,
      fun items items' ha hb => ?_⟩
    obtain ⟨items'', hspells, halike⟩ :=
      (Node.ofText_sequence_iff.1 ha).of_sameLetters hsame.symm
    rw [Node.ofText_sequence_iff.2 hspells] at hb
    cases hb
    exact halike

/-- Brackets around a single letter and the case of letters do not change the matcher. The other two
patterns differ in case only, and both fail at their second literal. -/
theorem Expression.ofText_spelling_brackets :
    let t := Namespace.keyboard.translator
    let items : List Node := [.button "a", .button "eNTER", .wildcard]
    let items' : List Node := [.button "A", .button "Enter", .wildcard]
    Node.ofText "a<eNTER>*" = .ok (.sequence items) ∧
    Node.ofText "<A><Enter>*" = .ok (.sequence items') ∧ List.Forall₂ Node.Alike items items' ∧
    (∃ x y, ofText "a<eNTER>*" 28 t = .ok x ∧ ofText "<A><Enter>*" 28 t = .ok y ∧
      x.matcher = y.matcher ∧
      ∀ events, x.matcher.evaluate events = y.matcher.evaluate events ∧
        x.process events = y.process events) ∧
    SameLetters "b<none>" "B<NONE>" ∧
    ∃ i name name', UnknownAt t [.button "b", .button "none"] i name ∧
      UnknownAt t [.button "B", .button "NONE"] i name' ∧
      ofText "b<none>" 28 t = .error (.unknownName name) ∧
      ofText "B<NONE>" 28 t = .error (.unknownName name') := by
  intro t items items'
  have ha : Node.ofText "a<eNTER>*" = .ok (.sequence items) := by rfl
  have hb : Node.ofText "<A><Enter>*" = .ok (.sequence items') := by rfl
  have halike : List.Forall₂ Node.Alike items items' :=
    .cons (.button (by decide)) (.cons (.button (by decide)) (.cons .wildcard .nil))
  have hbuilt : (ofText "a<eNTER>*" 28 t).toOption.isSome := by decide +kernel
  have hunknown : (ofText "b<none>" 28 t).toOption.isSome = false := by decide +kernel
  have hc : Node.ofText "b<none>" = .ok (.sequence [.button "b", .button "none"]) := by rfl
  have hd : Node.ofText "B<NONE>" = .ok (.sequence [.button "B", .button "NONE"]) := by rfl
  have hsame : SameLetters "b<none>" "B<NONE>" := by decide
  have hcase := (Expression.ofText_spelling 28 .keyboard "b<none>" "B<NONE>").2 hsame
  refine ⟨ha, hb, halike, ?_, hsame, ?_⟩
  · rcases (Expression.ofText_spelling 28 .keyboard "a<eNTER>*" "<A><Enter>*").1 _ _ ha hb halike
      with ⟨i, name, name', -, -, hfail, -⟩ | hsame
    · rw [hfail] at hbuilt
      cases hbuilt
    · exact hsame
  · rcases (Expression.ofText_spelling 28 .keyboard "b<none>" "B<NONE>").1 _ _ hc hd
      (hcase.2 _ _ hc hd) with hfail | ⟨x, y, hx, -⟩
    · exact hfail
    · rw [hx] at hunknown
      cases hunknown

end KeyChord.Pattern
