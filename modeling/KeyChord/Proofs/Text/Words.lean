import KeyChord.Text.Blank
import Mathlib.Data.List.TakeWhile

/-!
# Words between blanks, and texts that are cut

A text that is written word by word, with blanks between the words, has these words. A text that is
written in two parts around a separator is cut into these parts if the first one does not hold the
separator.

* `words_eq_nil_iff`, `words_append_of_blanks`, `words_word_append`: blanks are no words and end the
  word before them.
* `cutAt?_append`, `cutAt?_eq_none`: where a text is cut.
-/

namespace KeyChord.Text

variable {s t gap word : List Char}

/-! ## Words -/

/-- There is nothing but blanks. -/
def Blanks (s : List Char) : Prop :=
  ∀ c ∈ s, isBlank c = true

/-- There is no blank. -/
def NoBlank (s : List Char) : Prop :=
  ∀ c ∈ s, isBlank c = false

/-- A word: it is not empty, and there is no blank in it. -/
structure IsWord (s : List Char) : Prop where
  nonempty : s ≠ []
  noBlank : NoBlank s

-- Only the characters of the text are looked at. The instance that would be found for a statement
-- about characters goes through all there are.
instance (s : List Char) : Decidable (Blanks s) :=
  List.decidableBAll (fun c => isBlank c = true) s

instance (s : List Char) : Decidable (NoBlank s) :=
  List.decidableBAll (fun c => isBlank c = false) s

instance (s : List Char) : Decidable (IsWord s) :=
  decidable_of_iff (s ≠ [] ∧ NoBlank s)
    ⟨fun ⟨hne, hblank⟩ => ⟨hne, hblank⟩, fun h => ⟨h.nonempty, h.noBlank⟩⟩

/-- A text of blanks is one without words. -/
theorem words_eq_nil_iff {s : List Char} : words s = [] ↔ ∀ c ∈ s, isBlank c = true := by
  induction s with
  | nil => simp
  | cons c s ih =>
      rw [List.forall_mem_cons, ← ih]
      cases hc : isBlank c with
      | true =>
          have hwords : words (c :: s) = words s := by simpa using words_append_blank hc [] s
          simp [hwords]
      | false =>
          -- the character belongs to the first piece, which is then a word
          obtain ⟨piece, pieces, hpieces⟩ :=
            List.exists_cons_of_ne_nil (List.splitOnP_ne_nil isBlank s)
          simp [words, List.splitOnP_cons_eq_if_modifyHead, hc, hpieces]

/-- Blanks at the front are in no word. -/
theorem words_append_of_blanks (h : Blanks gap) (t : List Char) : words (gap ++ t) = words t := by
  induction gap with
  | nil => rfl
  | cons c gap ih =>
      obtain ⟨hc, hgap⟩ := List.forall_mem_cons.1 h
      have hwords := words_append_blank hc [] (gap ++ t)
      rw [words_nil, List.nil_append, List.nil_append] at hwords
      rw [List.cons_append, hwords, ih hgap]

theorem IsWord.words_eq (h : IsWord s) : words s = [s] := by
  unfold words
  rw [List.splitOnP_eq_singleton h.noBlank]
  simp [h.nonempty]

/-- **A word and the blanks after it.** -/
theorem words_word_append (hword : IsWord word) (hne : gap ≠ []) (hgap : Blanks gap)
    (t : List Char) : words (word ++ (gap ++ t)) = word :: words t := by
  obtain ⟨c, gap, rfl⟩ := List.exists_cons_of_ne_nil hne
  obtain ⟨hc, hgap⟩ := List.forall_mem_cons.1 hgap
  rw [List.cons_append, words_append_blank hc, hword.words_eq, words_append_of_blanks hgap,
    List.singleton_append]

/-! ## Cuts -/

variable {sep : Char}

theorem cutAt?_append {before : List Char} (h : sep ∉ before) (after : List Char) :
    cutAt? sep (before ++ sep :: after) = some (before, after) := by
  have hall : ∀ c ∈ before, decide (c ≠ sep) = true := fun c hc =>
    decide_eq_true fun heq => h (heq ▸ hc)
  unfold cutAt?
  rw [List.dropWhile_append_of_pos hall, List.takeWhile_append_of_pos hall]
  simp

theorem cutAt?_eq_none (h : sep ∉ s) : cutAt? sep s = none := by
  have hall : s.dropWhile (· ≠ sep) = [] :=
    List.dropWhile_eq_nil_iff.2 fun c hc => decide_eq_true fun heq => h (heq ▸ hc)
  unfold cutAt?
  rw [hall]

end KeyChord.Text
