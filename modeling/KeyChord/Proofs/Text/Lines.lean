import KeyChord.Text.Blank
import KeyChord.Text.Number
import Mathlib.Data.List.DropRight
import Mathlib.Data.List.Induction

/-!
# Lines and numbers that are written and read back

A text that is written line by line, each ended by a newline, is read as these lines, but for a
carriage return at the end of one; and where a line is trimmed, that makes no difference. A number
that is written in decimal digits is read as the same number.

* `lines_unlines`: the lines of a text that is written line by line.
* `trim_dropReturn`, `trim_cons_of_pos`, `trim_eq_self`: what trimming leaves of a line.
* `unsigned?_toDigits`, `unsigned?_eq_some_iff`, `unsigned?_eq_none`: which texts are read as
  numbers.
-/

namespace KeyChord.Text

variable {c : Char} {s t : List Char}

/-! ## Lines -/

/-- The text of some lines, each ended by a newline. -/
def unlines (ls : List (List Char)) : List Char :=
  ls.flatMap (· ++ ['\n'])

theorem splitOn_unlines {ls : List (List Char)} (h : ∀ l ∈ ls, '\n' ∉ l) :
    (unlines ls).splitOn '\n' = ls ++ [[]] := by
  induction ls with
  | nil => rfl
  | cons l ls ih =>
      obtain ⟨hl, hls⟩ := List.forall_mem_cons.1 h
      have htext : unlines (l :: ls) = l ++ '\n' :: unlines ls := by
        rw [unlines, List.flatMap_cons, List.append_assoc]
        rfl
      rw [htext, List.splitOn_append_cons_self_of_not_mem hl, ih hls, List.cons_append]

/-- **A text that is written line by line has these lines.** -/
theorem lines_unlines {ls : List (List Char)} (h : ∀ l ∈ ls, '\n' ∉ l) :
    lines (unlines ls) = ls.map dropReturn := by
  unfold lines
  rw [splitOn_unlines h]
  simp only [List.dropLast_concat, List.getLastD_concat]

/-! ## Trimming -/

theorem dropEndWhile_concat_of_pos {p : Char → Bool} (hc : p c = true) (s : List Char) :
    dropEndWhile p (s ++ [c]) = dropEndWhile p s := by
  unfold dropEndWhile
  rw [List.reverse_append, List.reverse_singleton, List.singleton_append,
    List.dropWhile_cons_of_pos hc]

theorem dropEndWhile_concat_of_neg {p : Char → Bool} (hc : p c = false) (s : List Char) :
    dropEndWhile p (s ++ [c]) = s ++ [c] := by
  unfold dropEndWhile
  rw [List.reverse_append, List.reverse_singleton, List.singleton_append,
    List.dropWhile_cons_of_neg (by rw [hc]; exact Bool.false_ne_true), List.reverse_cons,
    List.reverse_reverse]

/-- Nothing is dropped in front of a character that stays. -/
theorem dropEndWhile_append_cons {p : Char → Bool} (hc : p c = false) (s t : List Char) :
    dropEndWhile p (s ++ c :: t) = s ++ c :: dropEndWhile p t := by
  induction t using List.reverseRecOn with
  | nil => exact dropEndWhile_concat_of_neg hc s
  | append_singleton t d ih =>
      rw [← List.cons_append, ← List.append_assoc]
      cases hd : p d with
      | true => rw [dropEndWhile_concat_of_pos hd, dropEndWhile_concat_of_pos hd, ih]
      | false =>
          rw [dropEndWhile_concat_of_neg hd, dropEndWhile_concat_of_neg hd, List.append_assoc,
            List.cons_append]

theorem prefix_of_dropEndWhile (p : Char → Bool) (s : List Char) : dropEndWhile p s <+: s := by
  induction s using List.reverseRecOn with
  | nil => exact List.prefix_rfl
  | append_singleton s c ih =>
      cases hc : p c with
      | true =>
          rw [dropEndWhile_concat_of_pos hc]
          exact ih.trans (List.prefix_append s [c])
      | false => exact ⟨[], by rw [List.append_nil, dropEndWhile_concat_of_neg hc]⟩

/-- It makes no difference at which end trimming begins. -/
theorem trimStart_dropEndWhile (s : List Char) :
    trimStart (dropEndWhile isBlank s) = trim s := by
  unfold trim
  induction s using List.reverseRecOn with
  | nil => rfl
  | append_singleton s c ih =>
      cases hc : isBlank c with
      | true =>
          rw [dropEndWhile_concat_of_pos hc, ih]
          unfold trimStart
          rw [List.dropWhile_append]
          split
          · rename_i hempty
            rw [List.isEmpty_iff.1 hempty, List.dropWhile_cons_of_pos hc]
            rfl
          · rw [dropEndWhile_concat_of_pos hc]
      | false =>
          rw [dropEndWhile_concat_of_neg hc]
          unfold trimStart
          rw [List.dropWhile_append]
          split
          · rw [List.dropWhile_cons_of_neg (by rw [hc]; exact Bool.false_ne_true)]
            exact (dropEndWhile_concat_of_neg hc []).symm
          · rw [dropEndWhile_concat_of_neg hc]

theorem trim_dropEndWhile (s : List Char) : trim (dropEndWhile isBlank s) = trim s := by
  have hends : dropEndWhile isBlank (dropEndWhile isBlank s) = dropEndWhile isBlank s :=
    List.rdropWhile_idempotent isBlank s
  rw [← trimStart_dropEndWhile, hends, trimStart_dropEndWhile]

theorem trim_concat_of_pos (hc : isBlank c = true) (s : List Char) : trim (s ++ [c]) = trim s := by
  rw [← trim_dropEndWhile, dropEndWhile_concat_of_pos hc, trim_dropEndWhile]

theorem trim_cons_of_pos (hc : isBlank c = true) (s : List Char) : trim (c :: s) = trim s := by
  unfold trim trimStart
  rw [List.dropWhile_cons_of_pos hc]

/-- A carriage return is trimmed anyway. -/
theorem trim_dropReturn (line : List Char) : trim (dropReturn line) = trim line := by
  unfold dropReturn
  split
  · rename_i rest hline
    have hconcat : line = rest.reverse ++ ['\r'] := by
      rw [← List.reverse_reverse line, hline, List.reverse_cons]
    rw [hconcat, trim_concat_of_pos (by decide)]
  · rfl

/-- A text whose ends are no blanks is trimmed already. -/
theorem trim_eq_self (hfirst : ∀ c ∈ s.head?, isBlank c = false)
    (hlast : ∀ c ∈ s.getLast?, isBlank c = false) : trim s = s := by
  have hstart : trimStart s = s := by
    cases s with
    | nil => rfl
    | cons c s =>
        have hc : isBlank c = false := hfirst c rfl
        exact List.dropWhile_cons_of_neg (by rw [hc]; exact Bool.false_ne_true)
  unfold trim
  rw [hstart]
  rcases List.eq_nil_or_concat' s with rfl | ⟨front, last, rfl⟩
  · rfl
  · exact dropEndWhile_concat_of_neg (hlast last (by simp)) front

/-! ## Numbers -/

theorem isBlank_of_isDigit (hc : c.isDigit = true) : isBlank c = false := by
  simp only [Char.isDigit, Bool.and_eq_true, decide_eq_true_eq] at hc
  have hlow : 48 ≤ c.toNat := UInt32.le_iff_toNat_le.1 hc.1
  have hhigh : c.toNat ≤ 57 := UInt32.le_iff_toNat_le.1 hc.2
  simp only [isBlank, Bool.or_eq_false_iff, Bool.and_eq_false_iff, decide_eq_false_iff_not,
    beq_eq_false_iff_ne]
  omega

theorem isDigit_of_mem_toDigits {n : Nat} (hc : c ∈ Nat.toDigits 10 n) : c.isDigit = true :=
  Nat.isDigit_of_mem_toDigits (by decide) (by decide) hc

/-- A written number holds nothing but digits. -/
theorem not_mem_toDigits (hc : c.isDigit = false) (n : Nat) : c ∉ Nat.toDigits 10 n := fun hmem =>
  Bool.false_ne_true (hc.symm.trans (isDigit_of_mem_toDigits hmem))

/-- Decimal digits are read one after another. -/
theorem foldlM_digitValue? (s : List Char) (hs : ∀ c ∈ s, c.isDigit = true) (n : Nat) :
    s.foldlM (fun n c => (digitValue? c).map (10 * n + ·)) n = some (Nat.ofDigitChars 10 s n) := by
  induction s generalizing n with
  | nil => rfl
  | cons c s ih =>
      obtain ⟨hc, hs⟩ := List.forall_mem_cons.1 hs
      rw [List.foldlM_cons, digitValue?, if_pos hc, Nat.ofDigitChars_cons, ← ih hs]
      rfl

/-- Another character is no digit, wherever it stands. -/
theorem foldlM_digitValue?_eq_none {s : List Char} (hc : c ∈ s) (hdigit : c.isDigit = false)
    (n : Nat) : s.foldlM (fun n c => (digitValue? c).map (10 * n + ·)) n = none := by
  induction s generalizing n with
  | nil => cases hc
  | cons d s ih =>
      rw [List.foldlM_cons]
      rcases List.mem_cons.1 hc with rfl | hc
      · rw [digitValue?, if_neg (by rw [hdigit]; exact Bool.false_ne_true)]
        rfl
      · cases digitValue? d with
        | none => rfl
        | some value => exact ih hc _

/-- A text that spells a number: digits, and at most one plus sign before them. -/
def Numeral (s : List Char) : Prop :=
  ∃ digits, (s = digits ∨ s = '+' :: digits) ∧ digits ≠ [] ∧ ∀ c ∈ digits, c.isDigit = true

theorem digits?_of_forall_isDigit (hne : s ≠ []) (hs : ∀ c ∈ s, c.isDigit = true) :
    digits? s = some (Nat.ofDigitChars 10 s 0) := by
  cases s with
  | nil => exact absurd rfl hne
  | cons c s => exact foldlM_digitValue? (c :: s) hs 0

theorem digits?_isSome_iff : (digits? s).isSome ↔ s ≠ [] ∧ ∀ c ∈ s, c.isDigit = true := by
  constructor
  · intro h
    cases s with
    | nil => cases h
    | cons c s =>
        refine ⟨nofun, fun d hd => ?_⟩
        by_contra hdigit
        have hnone : digits? (c :: s) = none :=
          foldlM_digitValue?_eq_none hd (Bool.eq_false_iff.2 hdigit) 0
        rw [hnone] at h
        cases h
  · rintro ⟨hne, hs⟩
    rw [digits?_of_forall_isDigit hne hs]
    rfl

/-- **A number is read as it was written.** -/
theorem unsigned?_toDigits {limit n : Nat} (h : n < limit) :
    unsigned? limit (Nat.toDigits 10 n) = some n := by
  have hdigits : ∀ c ∈ Nat.toDigits 10 n, c.isDigit = true := fun c => isDigit_of_mem_toDigits
  have hread : digits? (Nat.toDigits 10 n) = some n := by
    rw [digits?_of_forall_isDigit Nat.toDigits_ne_nil hdigits, Nat.ofDigitChars_ten_toDigits]
  unfold unsigned?
  split
  · rename_i rest hplus
    rw [hplus] at hdigits
    cases hdigits '+' List.mem_cons_self
  · simp [hread, h]

theorem digits?_eq_some_iff {n : Nat} : digits? s = some n ↔
    s ≠ [] ∧ (∀ c ∈ s, c.isDigit = true) ∧ Nat.ofDigitChars 10 s 0 = n := by
  constructor
  · intro h
    obtain ⟨hne, hs⟩ := digits?_isSome_iff.1 (Option.isSome_of_eq_some h)
    rw [digits?_of_forall_isDigit hne hs] at h
    exact ⟨hne, hs, Option.some.inj h⟩
  · rintro ⟨hne, hs, rfl⟩
    exact digits?_of_forall_isDigit hne hs

/-- **What is read as a number**: digits that spell one below the limit, after at most one plus
sign. -/
theorem unsigned?_eq_some_iff {limit n : Nat} : unsigned? limit s = some n ↔
    n < limit ∧ ∃ digits, (s = digits ∨ s = '+' :: digits) ∧ digits ≠ [] ∧
      (∀ c ∈ digits, c.isDigit = true) ∧ Nat.ofDigitChars 10 digits 0 = n := by
  unfold unsigned?
  split
  · rename_i rest
    rw [Option.filter_eq_some_iff, digits?_eq_some_iff, decide_eq_true_eq]
    constructor
    · rintro ⟨hread, hlt⟩
      exact ⟨hlt, rest, .inr rfl, hread⟩
    · rintro ⟨hlt, digits, rfl | heq, hne, hdigits, hvalue⟩
      · cases hdigits '+' List.mem_cons_self
      · cases heq
        exact ⟨⟨hne, hdigits, hvalue⟩, hlt⟩
  · rename_i hplus
    rw [Option.filter_eq_some_iff, digits?_eq_some_iff, decide_eq_true_eq]
    constructor
    · rintro ⟨hread, hlt⟩
      exact ⟨hlt, s, .inl rfl, hread⟩
    · rintro ⟨hlt, digits, rfl | heq, hread⟩
      · exact ⟨hread, hlt⟩
      · exact absurd heq (hplus digits)

/-- A text that spells no number is read as none. -/
theorem unsigned?_eq_none {limit : Nat} (h : ¬ Numeral s) : unsigned? limit s = none := by
  rw [Option.eq_none_iff_forall_ne_some]
  intro n hn
  obtain ⟨-, digits, hs, hne, hdigits, -⟩ := unsigned?_eq_some_iff.1 hn
  exact h ⟨digits, hs, hne, hdigits⟩

end KeyChord.Text
