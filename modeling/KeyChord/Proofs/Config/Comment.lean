import KeyChord.Config.Settings
import KeyChord.Proofs.Json.Lines

/-!
# Comments never touch content

Comments are dropped line by line before a text is looked at, by a rule that knows nothing of quoted
texts or of lexemes. It need not know: a line that begins with a hash after blanks would begin with
a lexeme that is none, as no quoted text goes on from the line before. So a text that has a value
has no comments to drop, and what dropping them does to the ends of its lines changes no lexeme.

* `CommentLine`: nothing but blanks stands before the hash.
* `Commented lines lines'`: the second lines are the first with comments put anywhere among them.
* `lexed?_stripComments`: a text without a lexeme at fault keeps its lexemes.
* `stripComments_keeps_content`: **a text that has a value keeps it, with and without comments.**
-/

namespace KeyChord.Config

open Json Text

/-- Nothing but blanks stands before the first hash of the line. -/
def CommentLine (line : List Char) : Prop :=
  ∃ blanks rest, line = blanks ++ '#' :: rest ∧ ∀ c ∈ blanks, isBlank c = true

/-- The second lines are the first with comments put anywhere among them. -/
inductive Commented : List (List Char) → List (List Char) → Prop
  | nil : Commented [] []
  | keep {lines lines' : List (List Char)} (line : List Char) (h : Commented lines lines') :
      Commented (line :: lines) (line :: lines')
  | comment {lines lines' : List (List Char)} {line : List Char} (hline : CommentLine line)
      (h : Commented lines lines') : Commented lines (line :: lines')

/-! ## Which lines are dropped -/

theorem isComment_iff {line : List Char} : isComment line = true ↔ CommentLine line := by
  unfold isComment trimStart
  rw [decide_eq_true_iff]
  constructor
  · intro h
    obtain ⟨rest, hrest⟩ := List.head?_eq_some_iff.1 h
    refine ⟨line.takeWhile isBlank, rest, ?_, List.all_eq_true.1 List.all_takeWhile⟩
    rw [← hrest, List.takeWhile_append_dropWhile]
  · rintro ⟨blanks, rest, rfl, hblanks⟩
    rw [List.dropWhile_append_of_pos hblanks]
    rfl

/-- Comments among the lines make no difference to what is kept. -/
theorem Commented.filter_eq {lines lines' : List (List Char)} (h : Commented lines lines') :
    lines'.filter (fun line => !isComment line) = lines.filter fun line => !isComment line := by
  induction h with
  | nil => rfl
  | keep line _ ih => simp only [List.filter_cons, ih]
  | comment hline _ ih => simp [isComment_iff.2 hline, ih]

theorem stripComments_eq_of_commented {text text' : List Char}
    (h : Commented (lines text) (lines text')) : stripComments text' = stripComments text := by
  unfold stripComments
  rw [h.filter_eq]

/-! ## A comment is no part of a value -/

/-- A blank begins no lexeme. -/
theorem lexed?_blank_cons {b : Char} (hb : isBlank b = true) (hspace : isSpace b = false)
    (s : List Char) : lexed? (b :: s) = none := by
  have hne {d : Char} (hd : isBlank d = false) : b ≠ d := by
    rintro rfl
    rw [hb] at hd
    cases hd
  have hmark : mark? b = none := by
    unfold mark?
    split <;> first | rfl | exact absurd hb (by decide)
  have hdigit : b.isDigit = false := by
    by_contra h
    simp only [Bool.not_eq_false, Char.isDigit, Bool.and_eq_true, decide_eq_true_eq] at h
    have hlow : 48 ≤ b.toNat := UInt32.le_iff_toNat_le.1 h.1
    have hhigh : b.toNat ≤ 57 := UInt32.le_iff_toNat_le.1 h.2
    simp only [isBlank, Bool.or_eq_true, Bool.and_eq_true, decide_eq_true_eq, beq_iff_eq] at hb
    omega
  exact lexed?_cons_of_stray hspace hmark (hne (by decide)) (hne (by decide)) (hne (by decide))
    (hne (by decide)) (hne (by decide)) hdigit s

/-- **The lexemes of a comment are at fault.** -/
theorem CommentLine.lexed? {line : List Char} (h : CommentLine line) : lexed? line = none := by
  obtain ⟨blanks, rest, rfl, hblanks⟩ := h
  induction blanks with
  | nil => rfl
  | cons b blanks ih =>
      rw [List.forall_mem_cons] at hblanks
      rw [List.cons_append]
      by_cases hspace : isSpace b = true
      · unfold Json.lexed?
        rw [lexemes_space hspace]
        exact ih hblanks.2
      · exact lexed?_blank_cons hblanks.1 (by simpa using hspace) _

/-- Where no lexeme is at fault there is no comment. -/
theorem filter_isComment_of_lexedLines? {lines : List (List Char)}
    (h : (lexedLines? lines).isSome) : lines.filter (fun line => !isComment line) = lines := by
  rw [List.filter_eq_self]
  induction lines with
  | nil => simp
  | cons line lines ih =>
      rw [lexedLines?, isSome_joined?] at h
      refine List.forall_mem_cons.2 ⟨?_, ih h.2⟩
      have hline : ¬ CommentLine line := by
        intro hcomment
        rw [hcomment.lexed?] at h
        cases h.1
      simpa [← isComment_iff] using hline

/-- **A text without a lexeme at fault keeps its lexemes.** -/
theorem lexed?_stripComments {text : List Char} (h : (lexed? text).isSome) :
    lexed? (stripComments text) = lexed? text := by
  rw [lexed?_eq_lexedLines? text] at h ⊢
  unfold stripComments
  rw [lexed?_intercalate, filter_isComment_of_lexedLines? h]

theorem read_stripComments {text : List Char} {value : Json} (h : Json.read text = .ok value) :
    Json.read (stripComments text) = .ok value :=
  read_eq_ok_of_lexed?_eq (lexed?_stripComments (lexed?_isSome_of_read h)) h

/-- **Comments never touch content.** A text that has a value by itself has the same value after its
comments have been dropped, although that rewrites the ends of its lines. If comments are put
anywhere among its lines, it still has that value once they have been dropped. And whether or not it
has a value, the settings that it makes, or the error, are the same with these comments. -/
theorem stripComments_keeps_content (text : String) :
    (∀ value, Json.read text.toList = .ok value →
      Json.read (stripComments text.toList) = .ok value) ∧
    ∀ text' : String, Commented (lines text.toList) (lines text'.toList) →
      (∀ value, Json.read text.toList = .ok value →
        Json.read (stripComments text'.toList) = .ok value) ∧
      Settings.ofText text' = Settings.ofText text := by
  refine ⟨fun value h => read_stripComments h, fun text' hcommented => ?_⟩
  have hsame := stripComments_eq_of_commented hcommented
  constructor
  · intro value h
    rw [hsame]
    exact read_stripComments h
  · unfold Settings.ofText readLayer
    rw [hsame]

/-- A quoted text that begins with a hash on a line of its own, lines that end in a carriage return
too, and a comment behind a blank that is no white space of JSON. -/
theorem stripComments_keeps_content_hash :
    let text := "\x7b\"reset_key\":\r\n\"#F1\"\x7d\n"
    let text' := "# keys\n\x7b\"reset_key\":\n\u00a0 # the first\n\"#F1\"\x7d"
    let value := Json.object [("reset_key", .text "#F1")]
    Json.read text.toList = .ok value ∧ Commented (lines text.toList) (lines text'.toList) ∧
      Json.read (stripComments text.toList) = .ok value ∧
      Json.read (stripComments text'.toList) = .ok value ∧
      Settings.ofText text' = Settings.ofText text := by
  intro text text' value
  have hread : Json.read text.toList = .ok value := by
    unfold text
    rfl
  have hlines : lines text.toList =
      ["\x7b\"reset_key\":".toList, "\"#F1\"\x7d".toList] := by decide +kernel
  have hlines' : lines text'.toList =
      ["# keys".toList, "\x7b\"reset_key\":".toList, "\u00a0 # the first".toList,
        "\"#F1\"\x7d".toList] := by decide +kernel
  have hcommented : Commented (lines text.toList) (lines text'.toList) := by
    rw [hlines, hlines']
    apply Commented.comment (isComment_iff.1 (by decide +kernel))
    apply Commented.keep
    apply Commented.comment (isComment_iff.1 (by decide +kernel))
    exact .keep _ .nil
  obtain ⟨halone, hmore⟩ := stripComments_keeps_content text
  obtain ⟨hvalue, hsettings⟩ := hmore text' hcommented
  exact ⟨hread, hcommented, halone value hread, hvalue value hread, hsettings⟩

end KeyChord.Config
