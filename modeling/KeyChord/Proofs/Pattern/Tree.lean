import KeyChord.Proofs.Fallible
import KeyChord.Proofs.Pattern.Grammar

/-!
# What a tree compiles to

Compiling looks up the names of a tree and changes nothing else: the matcher is the tree again, with
what is waited for in place of each literal. This is so for every tree, also for one built by hand,
in which sequences may stand inside sequences and may be empty. It fails where a name means nothing,
and reports the first such name in the order in which the buttons are read. A pattern text is read
before any name is looked up, so a text that is no pattern is reported as such, whatever names are
in it.

* `Node.names`: the names of a tree, depth first and from the left.
* `Node.CompilesTo terminator t node m`: the matcher `m` is the tree `node` with its literals
  replaced.
* `Node.compile_eq_ok_iff`, `Node.compile_eq_error_iff`: what compiling a tree answers.
* `Spells text items`: the text is the spellings of the items and nothing else.
* `Node.compile_keeps_shape`: **a tree keeps its shape or its first unknown name is reported**, and
  what this means for a text.
-/

namespace KeyChord.Pattern

open Key Fallible

/-! ## Names and shapes -/

mutual

/-- The names of the buttons of a tree, depth first and from the left. -/
def Node.names : Node → List String
  | .button name => [name]
  | .wildcard => []
  | .sequence items => namesAll items

/-- The names of a row of trees, one tree after another. -/
def Node.namesAll : List Node → List String
  | [] => []
  | item :: items => item.names ++ namesAll items

end

/-- The matcher is the tree with a press of its key in place of each button, and a wildcard that
ends at the terminator in place of each wildcard. -/
inductive Node.CompilesTo (terminator : Code) (t : Translator) : Node → Matcher → Prop
  | button {name : String} {code : Code} (h : t.resolve? name = some code) :
      CompilesTo terminator t (.button name) (.button code .press)
  | wildcard : CompilesTo terminator t .wildcard (.wildcard terminator)
  | sequence {items : List Node} {children : List Matcher}
      (h : List.Forall₂ (CompilesTo terminator t) items children) :
      CompilesTo terminator t (.sequence items) (.sequence children)

/-- The name means no key. -/
def isUnknown (t : Translator) (name : String) : Bool :=
  (t.resolve? name).isNone

section

variable {terminator : Code} {t : Translator}

theorem isUnknown_eq_true_iff {name : String} :
    isUnknown t name = true ↔ t.resolve? name = none := by
  rw [isUnknown, Option.isNone_iff_eq_none]

theorem isUnknown_eq_false_iff {name : String} :
    isUnknown t name = false ↔ ∃ code, t.resolve? name = some code := by
  rw [isUnknown, Option.isNone_eq_false_iff, Option.isSome_iff_exists]

/-! ## Compiling a tree -/

theorem Node.compile_button_eq_ok_iff {name : String} {m : Matcher} :
    (Node.button name).compile terminator t = .ok m ↔
      ∃ code, t.resolve? name = some code ∧ m = .button code .press := by
  unfold Node.compile
  cases t.resolve? name <;> simp [eq_comm]

theorem Node.compile_button_eq_error_iff {name : String} {e : PatternError} :
    (Node.button name).compile terminator t = .error e ↔
      t.resolve? name = none ∧ e = .unknownName name := by
  unfold Node.compile
  cases t.resolve? name <;> simp [eq_comm]

theorem Node.compileAll_cons_eq_ok_iff {item : Node} {items : List Node} {ms : List Matcher} :
    Node.compileAll terminator t (item :: items) = .ok ms ↔
      ∃ first others, item.compile terminator t = .ok first ∧
        Node.compileAll terminator t items = .ok others ∧ ms = first :: others := by
  rw [Node.compileAll]
  simp only [bind_eq_ok_iff]
  constructor
  · rintro ⟨first, hfirst, others, hothers, h⟩
    cases h
    exact ⟨first, others, hfirst, hothers, rfl⟩
  · rintro ⟨first, others, hfirst, hothers, rfl⟩
    exact ⟨first, hfirst, others, hothers, rfl⟩

/-- A row fails where its first tree does, and behind a tree that compiles where the others do. -/
theorem Node.compileAll_cons_eq_error_iff {item : Node} {items : List Node} {e : PatternError} :
    Node.compileAll terminator t (item :: items) = .error e ↔
      item.compile terminator t = .error e ∨
        (∃ first, item.compile terminator t = .ok first) ∧
          Node.compileAll terminator t items = .error e := by
  have hpure (ms : List Matcher) : (pure ms : Except PatternError (List Matcher)) ≠ .error e :=
    nofun
  rw [Node.compileAll]
  simp only [bind_eq_error_iff, hpure, and_false, exists_false, or_false, exists_and_right]

mutual

/-- **A tree compiles to the matcher of its shape.** -/
theorem Node.compile_eq_ok_iff (node : Node) {m : Matcher} :
    node.compile terminator t = .ok m ↔ node.CompilesTo terminator t m := by
  cases node with
  | button name =>
      rw [Node.compile_button_eq_ok_iff]
      constructor
      · rintro ⟨code, hcode, rfl⟩
        exact .button hcode
      · rintro ⟨hcode⟩
        exact ⟨_, hcode, rfl⟩
  | wildcard =>
      constructor
      · intro h
        cases h
        exact .wildcard
      · rintro ⟨⟩
        rfl
  | sequence items =>
      rw [Node.compile, map_eq_ok_iff]
      constructor
      · rintro ⟨children, hchildren, rfl⟩
        exact .sequence ((Node.compileAll_eq_ok_iff items).1 hchildren)
      · intro h
        cases h with
        | sequence h => exact ⟨_, (Node.compileAll_eq_ok_iff items).2 h, rfl⟩

/-- A row of trees compiles tree by tree. -/
theorem Node.compileAll_eq_ok_iff (items : List Node) {ms : List Matcher} :
    Node.compileAll terminator t items = .ok ms ↔
      List.Forall₂ (Node.CompilesTo terminator t) items ms := by
  cases items with
  | nil =>
      rw [List.forall₂_nil_left_iff, Node.compileAll, Except.ok.injEq, eq_comm]
  | cons item items =>
      rw [Node.compileAll_cons_eq_ok_iff, List.forall₂_cons_left_iff]
      simp only [Node.compile_eq_ok_iff item, Node.compileAll_eq_ok_iff items, exists_and_left]

end

mutual

/-- **What is reported is the first unknown name.** -/
theorem Node.compile_eq_error_iff (node : Node) (e : PatternError) :
    node.compile terminator t = .error e ↔
      ∃ name, node.names.find? (isUnknown t) = some name ∧ e = .unknownName name := by
  cases node with
  | button name =>
      rw [Node.compile_button_eq_error_iff, Node.names, ← isUnknown_eq_true_iff]
      cases hname : isUnknown t name <;> simp [hname]
  | wildcard => simp [Node.compile, Node.names]
  | sequence items =>
      rw [Node.compile, map_eq_error_iff, Node.names]
      exact Node.compileAll_eq_error_iff items e

theorem Node.compileAll_eq_error_iff (items : List Node) (e : PatternError) :
    Node.compileAll terminator t items = .error e ↔
      ∃ name, (Node.namesAll items).find? (isUnknown t) = some name ∧ e = .unknownName name := by
  cases items with
  | nil => simp [Node.compileAll, Node.namesAll]
  | cons item items =>
      rw [Node.compileAll_cons_eq_error_iff, exists_eq_ok_iff, Node.namesAll, List.find?_append]
      simp only [ne_eq, Node.compile_eq_error_iff item, Node.compileAll_eq_error_iff items]
      cases item.names.find? (isUnknown t) <;> simp

end

/-! ## The first unknown name -/

/-- The name means nothing, and every name before it means a key. -/
structure FirstUnknown (t : Translator) (names : List String) (name : String) : Prop where
  unknown : t.resolve? name = none
  first : ∃ before after, names = before ++ name :: after ∧
    ∀ known ∈ before, ∃ code, t.resolve? known = some code

theorem find?_isUnknown_eq_some_iff {names : List String} {name : String} :
    names.find? (isUnknown t) = some name ↔ FirstUnknown t names name := by
  rw [List.find?_eq_some_iff_append, isUnknown_eq_true_iff]
  simp only [Bool.not_eq_true', isUnknown_eq_false_iff]
  exact ⟨fun ⟨hunknown, hfirst⟩ => ⟨hunknown, hfirst⟩, fun h => ⟨h.unknown, h.first⟩⟩

theorem find?_isUnknown_eq_none_iff {names : List String} :
    names.find? (isUnknown t) = none ↔ ∀ name ∈ names, ∃ code, t.resolve? name = some code := by
  simp only [List.find?_eq_none, Bool.not_eq_true, isUnknown_eq_false_iff]

/-- A tree compiles exactly if all its names mean keys. -/
theorem Node.exists_compile_iff {node : Node} :
    (∃ m, node.compile terminator t = .ok m) ↔
      ∀ name ∈ node.names, ∃ code, t.resolve? name = some code := by
  rw [exists_eq_ok_iff, ← find?_isUnknown_eq_none_iff]
  simp only [ne_eq, Node.compile_eq_error_iff]
  cases node.names.find? (isUnknown t) <;> simp

end

/-! ## Texts -/

/-- The text is the spellings of the items, one after another, of which there is at least one. -/
def Spells (text : String) (items : List Node) : Prop :=
  items ≠ [] ∧ ∃ words, List.Forall₂ Written items words ∧ text.toList = words.flatten

/-- A text that is read as a whole spells what is read. -/
theorem Node.ofText_eq_ok_iff_spells {text : String} {node : Node} :
    Node.ofText text = .ok node ↔ ∃ items, node = .sequence items ∧ Spells text items := by
  constructor
  · intro h
    obtain ⟨items, words, rfl, hitems, htext, hwords⟩ := Node.ofText_eq_ok h
    exact ⟨items, rfl, hitems, words, hwords, htext⟩
  · rintro ⟨items, rfl, hitems, words, hwords, htext⟩
    have hends : ¬ StartsLiteral [] := readLiteral?_eq_none_iff.1 rfl
    have hrow : LongestRow text.toList items words "".toList := by
      refine ⟨?_, hwords, hends⟩
      rw [htext, String.toList_empty, List.append_nil]
    exact Node.ofText_eq_ok_iff.2 (read_eq_sequence_iff.2 ⟨hitems, words, hrow⟩)

/-- The items of a pattern are those that its text spells. -/
theorem Node.ofText_sequence_iff {text : String} {items : List Node} :
    Node.ofText text = .ok (.sequence items) ↔ Spells text items := by
  rw [Node.ofText_eq_ok_iff_spells]
  constructor
  · rintro ⟨items', h, hspells⟩
    cases h
    exact hspells
  · intro hspells
    exact ⟨items, rfl, hspells⟩

namespace Expression

variable {text : String} {terminator : Code} {t : Translator}

/-- A text that spells nothing is reported before any name is looked up. -/
theorem ofText_of_not_spells (h : ¬ ∃ items, Spells text items) :
    ofText text terminator t = .error (.notAPattern text) := by
  refine bind_eq_error_iff.2 (Or.inl (Node.ofText_eq_error_iff.2 ⟨fun node hread => ?_, rfl⟩))
  obtain ⟨items, -, hspells⟩ :=
    Node.ofText_eq_ok_iff_spells.1 (Node.ofText_eq_ok_iff.2 hread)
  exact h ⟨items, hspells⟩

/-- Any other text comes to what its items compile to. -/
theorem ofText_of_spells {items : List Node} (h : Spells text items) :
    ofText text terminator t =
      ((Node.sequence items).compile terminator t).map fun m => ⟨text, m, terminator, t⟩ := by
  have hnode : Node.ofText text = .ok (.sequence items) :=
    Node.ofText_eq_ok_iff_spells.2 ⟨items, rfl, h⟩
  rw [ofText, hnode]
  rfl

/-- The matcher of an expression is one sequence of matchers that are none. -/
theorem matcher_flat {x : Expression} (h : ofText text terminator t = .ok x) :
    ∃ children, x.matcher = .sequence children ∧ children ≠ [] ∧
      ∀ child ∈ children, ∀ inner, child ≠ .sequence inner := by
  obtain ⟨literals, hne, rfl, -⟩ := exists_row_of_ofText h
  refine ⟨_, rfl, mt List.map_eq_nil_iff.1 hne, fun child hchild inner => ?_⟩
  obtain ⟨l, -, rfl⟩ := List.mem_map.1 hchild
  cases l <;> exact nofun

end Expression

/-- **A tree keeps its shape, or its first unknown name is reported.** A tree compiles exactly if
all its names mean keys, and then to the matcher of its shape; otherwise what is reported is its
first name without a meaning, depth first and from the left. A text outside the grammar is reported
as a whole, whatever names are in it. Any other text gives what its items compile to, which is one
non-empty sequence with no sequence in it. -/
theorem Node.compile_keeps_shape (terminator : Code) (t : Translator) :
    (∀ node : Node,
      ((∃ m, node.compile terminator t = .ok m) ↔
        ∀ name ∈ node.names, ∃ code, t.resolve? name = some code) ∧
      (∀ m, node.compile terminator t = .ok m ↔ node.CompilesTo terminator t m) ∧
      ∀ e, node.compile terminator t = .error e ↔
        ∃ name, FirstUnknown t node.names name ∧ e = .unknownName name) ∧
    ∀ text : String,
      ((¬ ∃ items, Spells text items) →
        Expression.ofText text terminator t = .error (.notAPattern text)) ∧
      (∀ items, Spells text items →
        Expression.ofText text terminator t =
          ((Node.sequence items).compile terminator t).map fun m => ⟨text, m, terminator, t⟩) ∧
      ∀ x, Expression.ofText text terminator t = .ok x →
        ∃ children, x.matcher = .sequence children ∧ children ≠ [] ∧
          ∀ child ∈ children, ∀ inner, child ≠ .sequence inner := by
  refine ⟨fun node => ⟨Node.exists_compile_iff, fun m => Node.compile_eq_ok_iff node,
    fun e => ?_⟩, fun text => ⟨Expression.ofText_of_not_spells,
    fun items => Expression.ofText_of_spells, fun x => Expression.matcher_flat⟩⟩
  simp only [Node.compile_eq_error_iff, find?_isUnknown_eq_some_iff]

/-- Of two unknown names the one that is read first is reported, though it stands deeper in the tree
and behind an empty sequence. An unknown name does not matter in a text that is no pattern. -/
theorem Node.compile_keeps_shape_nested :
    let t := Namespace.keyboard.translator
    let tree : Node :=
      .sequence [.sequence [.sequence [], .button "none"], .wildcard, .button "nope"]
    FirstUnknown t tree.names "none" ∧ tree.compile 28 t = .error (.unknownName "none") ∧
    (¬ ∃ items, Spells "<none>-" items) ∧
    Expression.ofText "<none>-" 28 t = .error (.notAPattern "<none>-") ∧
    Spells "<Enter>*" [.button "Enter", .wildcard] ∧
    ∃ x children, Expression.ofText "<Enter>*" 28 t = .ok x ∧ x.matcher = .sequence children ∧
      children ≠ [] ∧ ∀ child ∈ children, ∀ inner, child ≠ .sequence inner := by
  intro t tree
  have hnone : t.resolve? "none" = none := by decide +kernel
  have henter : t.resolve? "Enter" = some 28 := by decide +kernel
  have hfirst : FirstUnknown t tree.names "none" := ⟨hnone, [], ["nope"], rfl, nofun⟩
  have hnothing : ¬ ∃ items, Spells "<none>-" items := by
    rintro ⟨items, hspells⟩
    have hread : Node.ofText "<none>-" = .error (.notAPattern "<none>-") := by rfl
    rw [Node.ofText_sequence_iff.2 hspells] at hread
    cases hread
  have hspells : Spells "<Enter>*" [.button "Enter", .wildcard] :=
    Node.ofText_sequence_iff.1 (by rfl)
  obtain ⟨htree, htext⟩ := Node.compile_keeps_shape 28 t
  obtain ⟨m, hm⟩ := (htree (.sequence [.button "Enter", .wildcard])).1.2
    (by simp [names, namesAll, henter])
  have hx : Expression.ofText "<Enter>*" 28 t = .ok ⟨"<Enter>*", m, 28, t⟩ := by
    rw [(htext "<Enter>*").2.1 _ hspells, hm]
    rfl
  obtain ⟨children, hflat⟩ := (htext "<Enter>*").2.2 _ hx
  exact ⟨hfirst, ((htree tree).2.2 _).2 ⟨"none", hfirst, rfl⟩, hnothing,
    (htext "<none>-").1 hnothing, hspells, _, children, hx, hflat⟩

end KeyChord.Pattern
