import KeyChord.Proofs.Key.Table
import KeyChord.Proofs.Pattern.Grammar

/-!
# Printed names are patterns

A code is printed as its short name in brackets. Bracketed names one after another are a pattern
again, and in the namespace that they were printed in, it waits for presses of just these codes. The
buttons that a wildcard captures are printed in this way, so what was captured can be typed back.

* `Namespace.Named`: the short names of a row of codes.
* `printed`: names in brackets, one after another.
* `longestRow_printed`: reading what is printed takes a button for each name and leaves nothing.
* `compileAll_buttons`: buttons compile to the codes that their names mean.
* `Expression.render_pointer`: a run of named buttons is rendered as its printed names.
* `printed_reads_back`: the round trip, and that of a capture.
-/

namespace KeyChord.Key.Namespace

/-- The codes have these short names, in order. -/
def Named (n : Namespace) (codes : List Code) (names : List String) : Prop :=
  List.Forall₂ (fun code name => n.shortName? code = some name) codes names

namespace Named

variable {n : Namespace} {codes : List Code} {names : List String}

theorem ne_nil (h : n.Named codes names) (hne : codes ≠ []) : names ≠ [] := by
  rintro rfl
  exact hne (List.forall₂_nil_right_iff.1 h)

/-- Short names may stand in the brackets of a pattern. -/
theorem isNameChar (h : n.Named codes names) :
    ∀ name ∈ names, ∀ c ∈ name.toList, Pattern.isNameChar c := by
  induction h with
  | nil => exact List.forall_mem_nil _
  | cons hname _ ih => exact List.forall_mem_cons.2 ⟨isNameChar_of_shortName? hname, ih⟩

/-- Short names mean the codes they are the names of. -/
theorem resolve? (h : n.Named codes names) :
    List.Forall₂ (fun code name => n.translator.resolve? name = some code) codes names :=
  h.imp fun _ _ => resolve?_of_shortName?

/-- Codes each of which has a short name have a list of them. -/
theorem exists_of_isSome (h : ∀ code ∈ codes, (n.shortName? code).isSome) :
    ∃ names, n.Named codes names := by
  induction codes with
  | nil => exact ⟨[], .nil⟩
  | cons code codes ih =>
      obtain ⟨hcode, hcodes⟩ := List.forall_mem_cons.1 h
      obtain ⟨name, hname⟩ := Option.isSome_iff_exists.1 hcode
      obtain ⟨names, hnames⟩ := ih hcodes
      exact ⟨name :: names, .cons hname hnames⟩

end Named

end KeyChord.Key.Namespace

namespace KeyChord.Pattern

open Key

/-- The names in brackets, one after another. -/
def printed (names : List String) : String :=
  String.join (names.map fun name => "<" ++ name ++ ">")

variable {n : Namespace} {codes : List Code} {names : List String}

/-! ## Reading -/

/-- Reading what is printed takes a button for each name and leaves nothing. -/
theorem longestRow_printed (h : ∀ name ∈ names, ∀ c ∈ name.toList, isNameChar c) :
    LongestRow (printed names).toList (names.map .button)
      (names.map fun name => '<' :: name.toList ++ ['>']) [] where
  eq := by
    rw [printed, String.toList_join, List.flatMap_map, List.append_nil, List.flatMap_def]
    refine congrArg List.flatten (List.map_congr_left fun name _ => ?_)
    rw [String.toList_append, String.toList_append]
    rfl
  written := by
    refine List.forall₂_map_left_iff.2 (List.forall₂_map_right_iff.2 (List.forall₂_same.2 ?_))
    intro name hname
    have hword := Written.named (h name hname)
    rwa [String.ofList_toList] at hword
  ends := readLiteral?_eq_none_iff.1 rfl

/-- Printed names are a pattern, whose tree has a button for each. -/
theorem Node.ofText_printed (hne : names ≠ [])
    (h : ∀ name ∈ names, ∀ c ∈ name.toList, isNameChar c) :
    Node.ofText (printed names) = .ok (.sequence (names.map .button)) := by
  refine Node.ofText_eq_ok_iff.2 (read_eq_sequence_iff.2 ⟨?_, _, longestRow_printed h⟩)
  rwa [ne_eq, List.map_eq_nil_iff]

/-! ## Compiling -/

section Compile

variable {t : Translator} {terminator : Code}

/-- Buttons compile to presses of the codes that their names mean, in order. -/
theorem compileAll_buttons
    (h : List.Forall₂ (fun code name => t.resolve? name = some code) codes names) :
    Node.compileAll terminator t (names.map .button) =
      .ok (codes.map fun code => .button code .press) := by
  induction h with
  | nil => rfl
  | @cons code name codes names hname _ ih =>
      have hbutton : (Node.button name).compile terminator t = .ok (.button code .press) := by
        rw [Node.compile, hname]
      rw [List.map_cons, Node.compileAll, hbutton, ih]
      rfl

theorem Node.compile_buttons
    (h : List.Forall₂ (fun code name => t.resolve? name = some code) codes names) :
    (Node.sequence (names.map .button)).compile terminator t =
      .ok (.sequence (codes.map fun code => .button code .press)) := by
  rw [Node.compile, compileAll_buttons h]
  rfl

end Compile

/-- The expression of printed short names waits for presses of the codes. -/
theorem Expression.ofText_printed (hne : codes ≠ []) (h : n.Named codes names)
    (terminator : Code) :
    Expression.ofText (printed names) terminator n.translator =
      .ok ⟨printed names, .sequence (codes.map fun code => .button code .press), terminator,
        n.translator⟩ := by
  rw [Expression.ofText, Node.ofText_printed (h.ne_nil hne) h.isNameChar]
  simp only [bind, Except.bind, Node.compile_buttons h.resolve?]
  rfl

/-! ## Captures -/

/-- A run of named buttons is rendered as its printed names. -/
theorem Expression.render_pointer {x : Expression} {run : List Event}
    (hx : x.translator = Namespace.pointer.translator)
    (h : Namespace.pointer.Named (run.map Event.code) names) : x.render run = printed names := by
  have htexts : run.map (fun e => (x.translator.render? e.code).getD "") =
      names.map fun name => "<" ++ name ++ ">" := by
    rw [Namespace.Named, List.forall₂_map_left_iff] at h
    induction h with
    | nil => rfl
    | @cons e name run names hname _ ih =>
        have hfirst : x.translator.render? e.code = some ("<" ++ name ++ ">") := by
          rw [hx]
          exact congrArg (Option.map fun name => "<" ++ name ++ ">") hname
        rw [List.map_cons, List.map_cons, hfirst, ih, Option.getD_some]
  rw [Expression.render, printed, htexts]

/-- **What is printed can be typed back.** In each namespace, codes with short names are printed as
a text that is a pattern, with a button for each name, and compiles to presses of these codes in
order, whatever the terminator. In particular this holds of the text that an expression for buttons
gives for any run of named buttons that one of its wildcards took. -/
theorem printed_reads_back :
    (∀ (n : Namespace) (codes : List Code) (names : List String) (terminator : Code),
      codes ≠ [] → n.Named codes names →
        Node.ofText (printed names) = .ok (.sequence (names.map .button)) ∧
        (Node.sequence (names.map .button)).compile terminator n.translator =
          .ok (.sequence (codes.map fun code => .button code .press)) ∧
        Expression.ofText (printed names) terminator n.translator =
          .ok ⟨printed names, .sequence (codes.map fun code => .button code .press), terminator,
            n.translator⟩) ∧
    ∀ (x : Expression), x.translator = Namespace.pointer.translator →
      ∀ (events : List Event) (j : Nat) (run : List Event),
        (x.matcher.evaluate events).captures[j]? = some run → run ≠ [] →
        (∀ e ∈ run, (Namespace.pointer.shortName? e.code).isSome) →
          ∃ text, (x.process events).captures[j]? = some text ∧ ∀ terminator,
            Expression.ofText text terminator Namespace.pointer.translator =
              .ok ⟨text, .sequence (run.map fun e => .button e.code .press), terminator,
                Namespace.pointer.translator⟩ := by
  constructor
  · intro n codes names terminator hne hnamed
    exact ⟨Node.ofText_printed (hnamed.ne_nil hne) hnamed.isNameChar,
      Node.compile_buttons hnamed.resolve?, Expression.ofText_printed hne hnamed terminator⟩
  · intro x hx events j run hrun hne hsome
    obtain ⟨names, hnamed⟩ := Namespace.Named.exists_of_isSome (List.forall_mem_map.2 hsome)
    have htext : (x.process events).captures[j]? = some (printed names) := by
      rw [Expression.process, List.getElem?_map, hrun, Option.map_some,
        Expression.render_pointer hx hnamed]
    have hcodes : run.map Event.code ≠ [] := by rwa [ne_eq, List.map_eq_nil_iff]
    refine ⟨printed names, htext, fun terminator => ?_⟩
    rw [Expression.ofText_printed hcodes hnamed terminator, List.map_map]
    rfl

/-- Two keys whose codes have a second name each, and two buttons that a wildcard took. -/
theorem printed_reads_back_right_side :
    let x := Expression.reset 272 Namespace.pointer.translator
    let events : List Event := [.press 273, .press 275, .press 272]
    Expression.ofText (printed ["direction", "zoom"]) 28 Namespace.keyboard.translator =
      .ok ⟨printed ["direction", "zoom"], .sequence [.button 153 .press, .button 372 .press], 28,
        Namespace.keyboard.translator⟩ ∧
    (x.process events).captures = ["<right><side>"] ∧
    Expression.ofText "<right><side>" 272 Namespace.pointer.translator =
      .ok ⟨"<right><side>", .sequence [.button 273 .press, .button 275 .press], 272,
        Namespace.pointer.translator⟩ := by
  intro x events
  have hnamed : Namespace.keyboard.Named [153, 372] ["direction", "zoom"] :=
    .cons (by decide +kernel) (.cons (by decide +kernel) .nil)
  have hcaptures : (x.process events).captures = ["<right><side>"] := by decide +kernel
  have hsome : ∀ e ∈ [Event.press 273, Event.press 275],
      (Namespace.pointer.shortName? e.code).isSome := by
    intro e he
    rcases List.mem_pair.1 he with rfl | rfl
    · decide +kernel
    · decide +kernel
  obtain ⟨hkeys, hbuttons⟩ := printed_reads_back
  obtain ⟨text, htext, hread⟩ := hbuttons x rfl events 0 [.press 273, .press 275] rfl
    (List.cons_ne_nil _ _) hsome
  rw [hcaptures] at htext
  obtain rfl := Option.some.inj htext
  exact ⟨(hkeys _ _ _ 28 (List.cons_ne_nil _ _) hnamed).2.2, hcaptures, hread 272⟩

end KeyChord.Pattern
