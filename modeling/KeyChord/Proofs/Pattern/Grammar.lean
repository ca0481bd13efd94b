import KeyChord.Proofs.Pattern.Compiled

/-!
# The grammar of pattern texts

A pattern text is a row of spellings of literals. Reading takes the longest such row from the front
of a text, and no text has two of them: a spelling is recognised by its first character, and where a
bracket is open, by the first character that no name holds. So what reading answers can be said
without running it, and reading a pattern with more text after it goes on where the pattern ends.

* `StartsLiteral s`: some spelling stands at the front of the characters `s`.
* `LongestRow s items words rest`: `s` is the spellings `words` of `items`, and a rest that starts
  with no spelling.
* `readLiterals_eq_iff`: reading answers the longest row.
* `LongestRow.unique`, `LongestRow.append`: there is one such row, and rows may be joined.
* `read_grammar`: the same for texts.
-/

namespace KeyChord.Pattern

/-- Some spelling of a literal stands at the front. -/
def StartsLiteral (s : List Char) : Prop :=
  ∃ node word, Written node word ∧ word <+: s

/-- The characters are the spellings of the items, one after another, and then a rest that starts
with no spelling. -/
structure LongestRow (s : List Char) (items : List Node) (words : List (List Char))
    (rest : List Char) : Prop where
  eq : s = words.flatten ++ rest
  written : List.Forall₂ Written items words
  ends : ¬ StartsLiteral rest

/-! ## One literal -/

/-- A name ends where its bracket does. -/
theorem takeWhile_name {name : List Char} (hname : ∀ c ∈ name, isNameChar c) (rest : List Char) :
    (name ++ '>' :: rest).takeWhile isNameChar = name ∧
      (name ++ '>' :: rest).dropWhile isNameChar = '>' :: rest := by
  have hbracket : isNameChar '>' = false := by decide
  constructor
  · rw [List.takeWhile_append_of_pos hname, List.takeWhile_cons_of_neg (by simp [hbracket]),
      List.append_nil]
  · rw [List.dropWhile_append_of_pos hname, List.dropWhile_cons_of_neg (by simp [hbracket])]

/-- What is spelt is read, whatever follows. -/
theorem readLiteral?_of_written {node : Node} {word : List Char} (h : Written node word)
    (rest : List Char) : readLiteral? (word ++ rest) = some (node, rest) := by
  cases h with
  | @key c hc =>
      have hstar : c ≠ '*' := by
        rintro rfl
        cases hc
      have hopen : c ≠ '<' := by
        rintro rfl
        cases hc
      rw [List.singleton_append, readLiteral?.eq_4 c rest hstar hopen, if_pos hc]
  | @named name hname =>
      obtain ⟨htake, hdrop⟩ := takeWhile_name hname rest
      have hword : '<' :: name ++ ['>'] ++ rest = '<' :: (name ++ '>' :: rest) := by simp
      rw [hword, readLiteral?.eq_3, hdrop, htake]
      rfl
  | wildcard => rfl

/-- **Reading a literal takes its spelling from the front**, and nothing else. -/
theorem readLiteral?_eq_some_iff {s rest : List Char} {node : Node} :
    readLiteral? s = some (node, rest) ↔ ∃ word, s = word ++ rest ∧ Written node word := by
  constructor
  · exact written_of_readLiteral?
  · rintro ⟨word, rfl, hword⟩
    exact readLiteral?_of_written hword rest

theorem readLiteral?_eq_none_iff {s : List Char} :
    readLiteral? s = none ↔ ¬ StartsLiteral s := by
  constructor
  · rintro hnone ⟨node, word, hword, rest, rfl⟩
    have hread : readLiteral? (word ++ rest) = some (node, rest) :=
      readLiteral?_eq_some_iff.2 ⟨word, rfl, hword⟩
    rw [hnone] at hread
    cases hread
  · intro hstarts
    cases hread : readLiteral? s with
    | none => rfl
    | some found =>
        obtain ⟨node, rest⟩ := found
        obtain ⟨word, rfl, hword⟩ := readLiteral?_eq_some_iff.1 hread
        exact absurd ⟨node, word, hword, List.prefix_append word rest⟩ hstarts

/-! ## Rows of literals -/

/-- Reading stops only where no literal starts. -/
theorem readLiteral?_rest (s : List Char) : readLiteral? (readLiterals s).2 = none := by
  induction hn : s.length using Nat.strong_induction_on generalizing s with
  | _ n ih =>
      cases hread : readLiteral? s with
      | none =>
          rw [readLiterals_of_none hread]
          exact hread
      | some found =>
          obtain ⟨node, rest⟩ := found
          have hlt := length_lt_of_readLiteral? hread
          rw [readLiterals_of_some hread]
          exact ih rest.length (by omega) rest rfl

/-- Every text has a longest row, the one that is read. -/
theorem exists_longestRow (s : List Char) :
    ∃ words, LongestRow s (readLiterals s).1 words (readLiterals s).2 := by
  obtain ⟨words, hs, hwords⟩ := readLiterals_written s
  exact ⟨words, hs, hwords, readLiteral?_eq_none_iff.1 (readLiteral?_rest s)⟩

namespace LongestRow

variable {s rest : List Char} {items : List Node} {words : List (List Char)}

/-- A longest row is the one that is read. -/
theorem readLiterals_eq (h : LongestRow s items words rest) : readLiterals s = (items, rest) := by
  obtain ⟨rfl, hwords, hends⟩ := h
  induction hwords with
  | nil => exact readLiterals_of_none (readLiteral?_eq_none_iff.2 hends)
  | @cons item word items words hword _ ih =>
      rw [List.flatten_cons, List.append_assoc,
        readLiterals_of_some (readLiteral?_of_written hword (words.flatten ++ rest)), ih]

/-- Of two spellings at the front of a text, only one can be there. -/
theorem word_unique {node node' : Node} {word word' later later' : List Char}
    (hword : Written node word) (hword' : Written node' word')
    (h : word ++ later = word' ++ later') : word = word' ∧ later = later' := by
  have hread := readLiteral?_of_written hword later
  rw [h, readLiteral?_of_written hword' later'] at hread
  obtain ⟨-, rfl⟩ := Prod.mk.inj (Option.some.inj hread)
  exact ⟨List.append_cancel_right h, rfl⟩

/-- **There is one longest row**, and its literals are spelt in one way. -/
theorem unique {items' : List Node} {words' : List (List Char)} {rest' : List Char}
    (h : LongestRow s items words rest) (h' : LongestRow s items' words' rest') :
    items = items' ∧ words = words' ∧ rest = rest' := by
  have hread := h.readLiterals_eq
  rw [h'.readLiterals_eq] at hread
  obtain ⟨rfl, rfl⟩ := Prod.mk.inj hread
  refine ⟨rfl, ?_, rfl⟩
  -- the items are the same, so the two rows have as many words and are compared word by word
  have hflatten : words.flatten = words'.flatten :=
    List.append_cancel_right (h.eq.symm.trans h'.eq)
  have hwords := h.written
  have hwords' := h'.written
  clear h h' hread
  induction hwords generalizing words' with
  | nil =>
      cases hwords'
      rfl
  | cons hword _ ih =>
      cases hwords' with
      | cons hword' hwords' =>
          rw [List.flatten_cons, List.flatten_cons] at hflatten
          obtain ⟨rfl, hlater⟩ := word_unique hword hword' hflatten
          rw [ih hlater hwords']

/-- **Rows may be joined**: after a row without a rest comes the row of what follows. -/
theorem append {t rest' : List Char} {items' : List Node} {words' : List (List Char)}
    (h : LongestRow s items words []) (h' : LongestRow t items' words' rest') :
    LongestRow (s ++ t) (items ++ items') (words ++ words') rest' where
  eq := by
    rw [h.eq, h'.eq, List.append_nil, List.flatten_append, List.append_assoc]
  written := List.rel_append h.written h'.written
  ends := h'.ends

end LongestRow

/-- **Reading answers the longest row.** -/
theorem readLiterals_eq_iff {s rest : List Char} {items : List Node} :
    readLiterals s = (items, rest) ↔ ∃ words, LongestRow s items words rest := by
  constructor
  · intro hread
    obtain ⟨words, hrow⟩ := exists_longestRow s
    rw [hread] at hrow
    exact ⟨words, hrow⟩
  · rintro ⟨words, hrow⟩
    exact hrow.readLiterals_eq

/-! ## Texts -/

/-- A tree that is read is the row of the longest row, which then holds an item. -/
theorem read_eq_some_iff {text rest : String} {node : Node} :
    read text = ⟨some node, rest⟩ ↔
      ∃ items, node = .sequence items ∧ items ≠ [] ∧
        readLiterals text.toList = (items, rest.toList) := by
  unfold read
  rcases readLiterals text.toList with ⟨_ | ⟨item, items⟩, others⟩
  · constructor
    · intro h
      cases h
    · rintro ⟨items, -, hne, h⟩
      exact absurd (Prod.mk.inj h).1.symm hne
  · constructor
    · intro h
      cases h
      exact ⟨item :: items, rfl, List.cons_ne_nil item items, by rw [String.toList_ofList]⟩
    · rintro ⟨_, rfl, -, h⟩
      obtain ⟨rfl, rfl⟩ := Prod.mk.inj h
      simp only [String.ofList_toList]

theorem read_eq_sequence_iff {text rest : String} {items : List Node} :
    read text = ⟨some (.sequence items), rest⟩ ↔
      items ≠ [] ∧ ∃ words, LongestRow text.toList items words rest.toList := by
  rw [read_eq_some_iff]
  simp only [readLiterals_eq_iff]
  constructor
  · rintro ⟨_, h, hne, hrow⟩
    cases h
    exact ⟨hne, hrow⟩
  · rintro ⟨hne, hrow⟩
    exact ⟨items, rfl, hne, hrow⟩

/-- Without a literal at the front nothing is taken. -/
theorem read_eq_none_iff {text rest : String} :
    read text = ⟨none, rest⟩ ↔ rest = text ∧ ¬ StartsLiteral text.toList := by
  unfold read
  cases hread : readLiteral? text.toList with
  | none =>
      have hends := readLiteral?_eq_none_iff.1 hread
      rw [readLiterals_of_none hread]
      simp only [Reading.mk.injEq, true_and]
      exact ⟨fun h => ⟨h.symm, hends⟩, fun h => h.1.symm⟩
  | some found =>
      obtain ⟨node, later⟩ := found
      have hstarts : StartsLiteral text.toList := by
        by_contra hnot
        rw [readLiteral?_eq_none_iff.2 hnot] at hread
        cases hread
      rw [readLiterals_of_some hread]
      simp [hstarts]

/-- **A pattern is a text of which reading leaves nothing**, and has the tree that is read. -/
theorem Node.ofText_eq_ok_iff {text : String} {node : Node} :
    Node.ofText text = .ok node ↔ read text = ⟨some node, ""⟩ := by
  unfold Node.ofText
  rcases read text with ⟨_ | found, rest⟩
  · simp
  · by_cases hrest : rest = ""
    · simp [hrest]
    · simp [hrest]

/-- Any other text is no pattern, whatever stops the reading. -/
theorem Node.ofText_eq_error_iff {text : String} {e : PatternError} :
    Node.ofText text = .error e ↔
      (∀ node, read text ≠ ⟨some node, ""⟩) ∧ e = .notAPattern text := by
  unfold Node.ofText
  rcases read text with ⟨_ | found, rest⟩
  · simp [eq_comm]
  · by_cases hrest : rest = ""
    · simp [hrest]
    · simp [hrest, eq_comm]

/-- The tree of a pattern is the longest row, and nothing is left of the text. -/
theorem Node.exists_row_of_ofText {text : String} {items : List Node}
    (h : Node.ofText text = .ok (.sequence items)) :
    items ≠ [] ∧ ∃ words, LongestRow text.toList items words [] :=
  read_eq_sequence_iff.1 (Node.ofText_eq_ok_iff.1 h)

/-- What is read of a pattern with a text after it: the items of the pattern, and then what is read
of the text. -/
theorem read_append {text later rest : String} {items items' : List Node}
    (h : Node.ofText text = .ok (.sequence items))
    (hlater : readLiterals later.toList = (items', rest.toList)) :
    read (text ++ later) = ⟨some (.sequence (items ++ items')), rest⟩ := by
  obtain ⟨hne, words, hrow⟩ := Node.exists_row_of_ofText h
  obtain ⟨words', hrow'⟩ := readLiterals_eq_iff.1 hlater
  refine read_eq_sequence_iff.2 ⟨by simp [hne], words ++ words', ?_⟩
  rw [String.toList_append]
  exact hrow.append hrow'

/-- **Reading accepts the grammar and takes as much as possible.** What is read is a row of items
and a rest exactly if the text is the spellings of the items, one after another, and a rest that
starts with no spelling; no text can be cut in two such ways. There is no tree exactly if no
spelling stands at the front, and then the whole text is left. A text is a pattern exactly if there
is a tree and nothing is left, and has that tree; a text that is none is reported as a whole. If
more text follows a pattern, its items come first, then those of what follows, if there are any, and
what follows leaves the same rest as by itself. -/
theorem read_grammar (text : String) :
    (∀ node rest, read text = ⟨some node, rest⟩ → ∃ items, node = .sequence items) ∧
    (∀ items rest, read text = ⟨some (.sequence items), rest⟩ ↔
      items ≠ [] ∧ ∃ words, LongestRow text.toList items words rest.toList) ∧
    (∀ items words rest items' words' rest', LongestRow text.toList items words rest →
      LongestRow text.toList items' words' rest' →
        items = items' ∧ words = words' ∧ rest = rest') ∧
    (∀ rest, read text = ⟨none, rest⟩ ↔ rest = text ∧ ¬ StartsLiteral text.toList) ∧
    (∀ node, Node.ofText text = .ok node ↔ read text = ⟨some node, ""⟩) ∧
    (∀ e, Node.ofText text = .error e ↔
      (∀ node, read text ≠ ⟨some node, ""⟩) ∧ e = .notAPattern text) ∧
    ∀ items, Node.ofText text = .ok (.sequence items) → ∀ later,
      ((read later).node = none → read (text ++ later) = ⟨some (.sequence items), later⟩) ∧
      ∀ items' rest, read later = ⟨some (.sequence items'), rest⟩ →
        read (text ++ later) = ⟨some (.sequence (items ++ items')), rest⟩ := by
  refine ⟨fun node rest h => ?_, fun _ _ => read_eq_sequence_iff,
    fun _ _ _ _ _ _ h h' => h.unique h', fun _ => read_eq_none_iff,
    fun _ => Node.ofText_eq_ok_iff, fun _ => Node.ofText_eq_error_iff,
    fun items h later => ⟨fun hnone => ?_, fun items' rest hlater => ?_⟩⟩
  · obtain ⟨items, hnode, -⟩ := read_eq_some_iff.1 h
    exact ⟨items, hnode⟩
  · have hread : read later = ⟨none, (read later).rest⟩ := by rw [← hnone]
    have hends := (read_eq_none_iff.1 hread).2
    have hnothing := readLiterals_of_none (readLiteral?_eq_none_iff.2 hends)
    have happend := read_append h hnothing
    rwa [List.append_nil] at happend
  · obtain ⟨-, hrow⟩ := read_eq_sequence_iff.1 hlater
    exact read_append h (readLiterals_eq_iff.2 hrow)

/-- An open bracket that is never closed ends the reading, also after a pattern. -/
theorem read_grammar_open_bracket :
    let items : List Node := [.button "a", .button "Enter", .wildcard]
    Node.ofText "a<Enter>*" = .ok (.sequence items) ∧
    read "b<x" = ⟨some (.sequence [.button "b"]), "<x"⟩ ∧
    read ("a<Enter>*" ++ "b<x") = ⟨some (.sequence (items ++ [.button "b"])), "<x"⟩ ∧
    (read "<x").node = none ∧
    read ("a<Enter>*" ++ "<x") = ⟨some (.sequence items), "<x"⟩ := by
  intro items
  have hpattern : Node.ofText "a<Enter>*" = .ok (.sequence items) := by rfl
  have hlater : read "b<x" = ⟨some (.sequence [.button "b"]), "<x"⟩ := by rfl
  have hnone : (read "<x").node = none := by rfl
  obtain ⟨-, -, -, -, -, -, happend⟩ := read_grammar "a<Enter>*"
  exact ⟨hpattern, hlater, (happend items hpattern "b<x").2 _ _ hlater, hnone,
    (happend items hpattern "<x").1 hnone⟩

end KeyChord.Pattern
