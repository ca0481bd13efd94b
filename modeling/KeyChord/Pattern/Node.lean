import KeyChord.Text.Blank

/-!
# Pattern text

A pattern is written as a row of literals: a letter or digit for the key of that name, a name of
letters, digits and underscores in angle brackets, or `*` for a wildcard. Reading takes as many
literals from the front as there are; a text is a pattern if that leaves nothing.
-/

namespace KeyChord.Pattern

/-- A pattern as a tree. Reading a text gives a single row of literals; trees built by hand may
nest rows. -/
inductive Node where
  | button (name : String)
  | wildcard
  | sequence (items : List Node)

/-- A character that a bracketed name may hold. -/
def isNameChar (c : Char) : Bool :=
  c.isAlphanum || c = '_'

/-- Reads one literal and answers it with what follows. -/
def readLiteral? : List Char → Option (Node × List Char)
  | [] => none
  | '*' :: rest => some (.wildcard, rest)
  | '<' :: inner =>
    match inner.dropWhile isNameChar with
    | '>' :: rest => some (.button (String.ofList (inner.takeWhile isNameChar)), rest)
    | _ => none
  | c :: rest => if c.isAlphanum then some (.button (String.ofList [c]), rest) else none

/-- A literal takes at least one character. -/
theorem length_lt_of_readLiteral? {s rest : List Char} {n : Node}
    (h : readLiteral? s = some (n, rest)) : rest.length < s.length := by
  unfold readLiteral? at h
  split at h
  · cases h
  · simp only [Option.some.injEq, Prod.mk.injEq] at h
    simp [← h.2]
  · rename_i inner
    split at h
    · rename_i r heq
      simp only [Option.some.injEq, Prod.mk.injEq] at h
      have := (List.dropWhile_suffix (l := inner) isNameChar).length_le
      rw [heq] at this
      simp only [← h.2, List.length_cons] at this ⊢
      omega
    · cases h
  · split at h
    · simp only [Option.some.injEq, Prod.mk.injEq] at h
      simp [← h.2]
    · cases h

/-- Reads at most the given number of literals from the front. -/
def readUpTo : Nat → List Char → List Node × List Char
  | 0, s => ([], s)
  | n + 1, s =>
    match readLiteral? s with
    | none => ([], s)
    | some (node, rest) =>
      let (nodes, rest) := readUpTo n rest
      (node :: nodes, rest)

/-- Reads literals from the front for as long as there is one. A text has no more literals than
characters. -/
def readLiterals (s : List Char) : List Node × List Char :=
  readUpTo s.length s

/-- Beyond the length of the text the bound does not matter. -/
theorem readUpTo_eq_of_length_le {n : Nat} {s : List Char} (h : s.length ≤ n) :
    readUpTo n s = readLiterals s := by
  suffices ∀ m n (s : List Char), s.length ≤ m → s.length ≤ n → readUpTo m s = readUpTo n s from
    this _ _ _ h (Nat.le_refl _)
  intro m
  induction m with
  | zero =>
    intro n s hm _
    have hs : s = [] := List.length_eq_zero_iff.1 (by omega)
    subst hs
    cases n <;> simp [readUpTo, readLiteral?]
  | succ m ih =>
    intro n s hm hn
    cases n with
    | zero =>
      have hs : s = [] := List.length_eq_zero_iff.1 (by omega)
      subst hs
      simp [readUpTo, readLiteral?]
    | succ n =>
      simp only [readUpTo]
      split
      · rfl
      · rename_i node rest heq
        have := length_lt_of_readLiteral? heq
        rw [ih n rest (by omega) (by omega)]

/-- Nothing is taken from a text that starts with no literal. -/
theorem readLiterals_of_none {s : List Char} (h : readLiteral? s = none) :
    readLiterals s = ([], s) := by
  unfold readLiterals
  cases s.length <;> simp [readUpTo, h]

/-- A literal at the front comes first, then what the rest of the text holds. -/
theorem readLiterals_of_some {s rest : List Char} {node : Node}
    (h : readLiteral? s = some (node, rest)) :
    readLiterals s = (node :: (readLiterals rest).1, (readLiterals rest).2) := by
  have hlt := length_lt_of_readLiteral? h
  obtain ⟨n, hn⟩ : ∃ n, s.length = n + 1 := ⟨s.length - 1, by omega⟩
  rw [readLiterals, hn, readUpTo, h]
  simp only [readUpTo_eq_of_length_le (show rest.length ≤ n by omega)]

/-- What reading a text from the front comes to: the row of literals, if there is any, and the
text that was left. -/
structure Reading where
  node : Option Node
  rest : String

/-- Reads as many literals as possible. Without a single one there is no tree and the whole text
is left. -/
def read (text : String) : Reading :=
  match readLiterals text.toList with
  | ([], _) => ⟨none, text⟩
  | (items, rest) => ⟨some (.sequence items), String.ofList rest⟩

end KeyChord.Pattern
