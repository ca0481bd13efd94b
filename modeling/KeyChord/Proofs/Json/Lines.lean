import KeyChord.Json.Reader
import KeyChord.Proofs.Json.Break
import KeyChord.Text.Blank

/-!
# A JSON text is read line by line

As no lexeme goes on after the end of its line, the lexemes of a text are those of its lines, one
line after another, and a text holds a value exactly if no lexeme is at fault and the lexemes make
one. So the value of a text depends on its lines alone, and not on how they are ended.

* `lexed?`: what the lexemes of a text are, if none is at fault.
* `lexed?_append`: a line break cuts them in two.
* `lexed?_intercalate`, `lexed?_eq_lexedLines?`: the lexemes of a text are those of its lines.
* `toOption_read`: the value of a text is that of its lexemes.
-/

namespace KeyChord.Json

open Fallible

/-! ## One reading after another -/

/-- What is read first and then what is read next, if neither is at fault. -/
def joined? (first next : Option (List LexemeKind)) : Option (List LexemeKind) :=
  first.bind fun kinds => next.map (kinds ++ ·)

@[simp] theorem joined?_none (next : Option (List LexemeKind)) : joined? none next = none := rfl

@[simp] theorem joined?_nil_left (next : Option (List LexemeKind)) :
    joined? (some []) next = next := by
  simp [joined?]

@[simp] theorem joined?_nil_right (first : Option (List LexemeKind)) :
    joined? first (some []) = first := by
  cases first <;> simp [joined?]

theorem joined?_assoc (first next last : Option (List LexemeKind)) :
    joined? (joined? first next) last = joined? first (joined? next last) := by
  cases first with
  | none => rfl
  | some kinds =>
      cases next with
      | none => rfl
      | some more => cases last <;> simp [joined?]

theorem isSome_joined? {first next : Option (List LexemeKind)} :
    (joined? first next).isSome ↔ first.isSome ∧ next.isSome := by
  cases first <;> cases next <;> simp [joined?]

/-! ## The lexemes of a text -/

/-- What lexemes are, if none is at fault. -/
def kinds? : List Lexeme → Option (List LexemeKind)
  | [] => some []
  | l :: ls => joined? (l.kind.result?.map ([·])) (kinds? ls)

/-- What the lexemes of a text are, if none is at fault. -/
def lexed? (s : List Char) : Option (List LexemeKind) :=
  kinds? (lexemes 0 s)

theorem lexemes_space {d : Char} (hd : isSpace d = true) (s : List Char) :
    lexemes 0 (d :: s) = lexemes 0 s := by
  simp [lexemes, hd]

/-- From the start of a lexeme on, it is read first, and then what follows it. -/
theorem kinds?_lexemes_cons {d : Char} (hd : isSpace d = false) (s : List Char) :
    kinds? (lexemes 0 (d :: s)) =
      (lexeme? d s).bind fun (kind, after) =>
        joined? (some [kind]) (kinds? (lexemes (s.length - after.length) s)) := by
  have hlexemes : lexemes 0 (d :: s) = ⟨byteCount (d :: s), (readLexeme d s).1⟩ ::
      lexemes (s.length - (readLexeme d s).2.length) s := by
    simp [lexemes, hd]
  rw [hlexemes, kinds?]
  unfold lexeme?
  cases (readLexeme d s).1.result? <;> rfl

theorem kinds?_lexemes_append {c : Char} (hc : IsBreak c) (t : List Char) {skip : Nat}
    {s : List Char} (hskip : skip ≤ s.length) :
    kinds? (lexemes skip (s ++ c :: t)) = joined? (kinds? (lexemes skip s)) (lexed? t) := by
  induction s generalizing skip with
  | nil =>
      obtain rfl : skip = 0 := by simpa using hskip
      rw [List.nil_append, lexemes_space hc.isSpace]
      simp [lexemes, kinds?, lexed?]
  | cons d s ih =>
      cases skip with
      | succ skip => exact ih (by simpa using hskip)
      | zero =>
          rw [List.cons_append]
          by_cases hd : isSpace d = true
          · rw [lexemes_space hd, lexemes_space hd]
            exact ih (Nat.zero_le _)
          have hd : isSpace d = false := by simpa using hd
          rw [kinds?_lexemes_cons hd, kinds?_lexemes_cons hd, lexeme?_append hc t]
          cases lexeme? d s with
          | none => rfl
          | some found =>
              -- the lexeme is as long as before
              have hlength : (s ++ c :: t).length - (found.2 ++ c :: t).length =
                  s.length - found.2.length := by
                simp only [List.length_append]
                omega
              simp only [Option.map_some, Option.bind_some, Prod.map_fst, Prod.map_snd, id_eq]
              rw [hlength, ih (Nat.sub_le _ _), joined?_assoc]

/-- **A line break cuts the lexemes of a text in two.** -/
theorem lexed?_append {c : Char} (hc : IsBreak c) (s t : List Char) :
    lexed? (s ++ c :: t) = joined? (lexed? s) (lexed? t) :=
  kinds?_lexemes_append hc t (Nat.zero_le _)

theorem lexed?_nil : lexed? [] = some [] := rfl

/-- Nothing is read in front of a character that begins no lexeme. -/
theorem lexed?_cons_of_stray {d : Char} (hspace : isSpace d = false) (hmark : mark? d = none)
    (hquote : d ≠ '"') (hn : d ≠ 'n') (ht : d ≠ 't') (hf : d ≠ 'f') (hminus : d ≠ '-')
    (hdigit : d.isDigit = false) (s : List Char) : lexed? (d :: s) = none := by
  have hlexeme : lexeme? d s = none := by
    rw [lexeme?_eq, hmark]
    simp only [if_neg hquote]
    rw [readScalar_of_ne hn ht hf hminus, hdigit]
    rfl
  unfold lexed?
  rw [kinds?_lexemes_cons hspace, hlexeme]
  rfl

/-! ## The lexemes of its lines -/

/-- What the lexemes of some lines are, one line after another, if none is at fault. -/
def lexedLines? : List (List Char) → Option (List LexemeKind)
  | [] => some []
  | line :: lines => joined? (lexed? line) (lexedLines? lines)

theorem lexedLines?_append (front back : List (List Char)) :
    lexedLines? (front ++ back) = joined? (lexedLines? front) (lexedLines? back) := by
  induction front with
  | nil => simp [lexedLines?]
  | cons line front ih => rw [List.cons_append, lexedLines?, lexedLines?, ih, joined?_assoc]

/-- Lines joined by newlines have the lexemes of the lines. -/
theorem lexed?_intercalate (lines : List (List Char)) :
    lexed? (['\n'].intercalate lines) = lexedLines? lines := by
  induction lines with
  | nil => rfl
  | cons line lines ih =>
      cases lines with
      | nil => simp [lexedLines?]
      | cons next lines =>
          rw [List.intercalate_cons_cons, List.append_assoc, List.singleton_append,
            lexed?_append (Or.inl rfl), ih]
          rfl

/-- The carriage return at the end of a line is in no lexeme. -/
theorem lexed?_dropReturn (line : List Char) : lexed? (Text.dropReturn line) = lexed? line := by
  unfold Text.dropReturn
  split
  · rename_i rest hreverse
    have hline : line = rest.reverse ++ ['\r'] := by
      rw [← List.reverse_cons, ← hreverse, List.reverse_reverse]
    rw [hline, lexed?_append (Or.inr rfl), lexed?_nil, joined?_nil_right]
  · rfl

theorem lexedLines?_dropReturn (lines : List (List Char)) :
    lexedLines? (lines.map Text.dropReturn) = lexedLines? lines := by
  induction lines with
  | nil => rfl
  | cons line lines ih => rw [List.map_cons, lexedLines?, lexedLines?, lexed?_dropReturn, ih]

/-- **The lexemes of a text are those of its lines.** -/
theorem lexed?_eq_lexedLines? (s : List Char) : lexed? s = lexedLines? (Text.lines s) := by
  have hne : s.splitOn '\n' ≠ [] := List.splitOn_ne_nil '\n' s
  obtain ⟨front, last, hpieces⟩ : ∃ front last, s.splitOn '\n' = front ++ [last] :=
    ⟨_, _, (List.dropLast_concat_getLast hne).symm⟩
  have hlexed : lexed? s = joined? (lexedLines? front) (lexed? last) := by
    have htext := lexed?_intercalate (s.splitOn '\n')
    rw [List.intercalate_splitOn] at htext
    rw [htext, hpieces, lexedLines?_append, lexedLines?, lexedLines?, joined?_nil_right]
  unfold Text.lines
  simp only [hpieces, List.dropLast_concat, List.getLastD_concat]
  -- an empty line at the end is no line, and has no lexemes either
  cases last with
  | nil =>
      rw [hlexed, lexed?_nil, joined?_nil_right, lexedLines?_dropReturn]
  | cons d last =>
      rw [hlexed, lexedLines?_append, lexedLines?_dropReturn, lexedLines?, lexedLines?,
        joined?_nil_right]

/-! ## The value of a text -/

/-- The value that lexemes of these kinds make, wherever they stand. -/
def ofKinds? (kinds : List LexemeKind) : Option Json :=
  (ofLexemes (kinds.map (⟨0, ·⟩))).toOption

theorem toOption_openFrame (l : Lexeme) (slot : Slot) (frame : Frame) (stack : List Frame) :
    (openFrame l slot frame stack).toOption =
      (openFrame ⟨0, l.kind⟩ slot frame stack).toOption := by
  unfold openFrame
  split <;> rfl

/-- Where a lexeme stands is only looked at when it is at fault. -/
theorem toOption_takeValue (l : Lexeme) (stack : List Frame) :
    (takeValue l stack).toOption =
      l.kind.result?.bind fun kind => (takeValue ⟨0, kind⟩ stack).toOption := by
  obtain ⟨unread, kind⟩ := l
  cases kind with
  | mark m =>
      cases m with
      | openArray => exact toOption_openFrame _ _ _ _
      | openObject => exact toOption_openFrame _ _ _ _
      | closeArray => rfl
      | closeObject => rfl
      | comma => rfl
      | colon => rfl
  | scalar value => rfl
  | text value => rfl
  | badScalar fault => rfl
  | badText fault => rfl

theorem toOption_takeKey (l : Lexeme) (stack : List Frame) :
    (takeKey l stack).toOption =
      l.kind.result?.bind fun kind => (takeKey ⟨0, kind⟩ stack).toOption := by
  obtain ⟨unread, kind⟩ := l
  cases kind with
  | mark m => rfl
  | scalar value => rfl
  | text value =>
      rcases stack with _ | ⟨frame, stack⟩
      · rfl
      · cases frame <;> rfl
  | badScalar fault => rfl
  | badText fault => rfl

theorem toOption_step (r : Reading) (l : Lexeme) :
    (r.step l).toOption = l.kind.result?.bind fun kind => (r.step ⟨0, kind⟩).toOption := by
  cases r with
  | finished value =>
      obtain ⟨unread, kind⟩ := l
      cases kind <;> rfl
  | due slot stack =>
      have hvalue := toOption_takeValue l stack
      have hkey := toOption_takeKey l stack
      obtain ⟨unread, kind⟩ := l
      -- a mark that fits the slot, or else a value, a key or a fault
      cases slot <;> rcases kind with (_ | _ | _ | _ | _ | _) | _ | _ | _ | _
      all_goals first | rfl | exact hvalue | exact hkey

theorem toOption_foldlM_step (ls : List Lexeme) (r : Reading) :
    (ls.foldlM Reading.step r).toOption =
      (kinds? ls).bind fun kinds =>
        ((kinds.map (⟨0, ·⟩)).foldlM Reading.step r).toOption := by
  induction ls generalizing r with
  | nil => rfl
  | cons l ls ih =>
      rw [List.foldlM_cons, toOption_bind, toOption_step, kinds?]
      cases l.kind.result? with
      | none => rfl
      | some kind =>
          simp only [Option.bind_some, Option.map_some, ih, joined?]
          cases kinds? ls with
          | none => simp
          | some kinds =>
              simp only [Option.bind_some, Option.map_some, List.singleton_append, List.map_cons,
                List.foldlM_cons, toOption_bind]

/-- **The value of a text is that of its lexemes.** -/
theorem toOption_read (s : List Char) : (read s).toOption = (lexed? s).bind ofKinds? := by
  have hlexemes : (read s).toOption = (ofLexemes (lexemes 0 s)).toOption := by
    unfold read
    cases ofLexemes (lexemes 0 s) <;> rfl
  rw [hlexemes]
  unfold ofKinds? ofLexemes lexed?
  rw [toOption_bind, toOption_foldlM_step]
  cases kinds? (lexemes 0 s) with
  | none => rfl
  | some kinds => simp only [Option.bind_some, toOption_bind]

/-- Texts with the same lexemes have the same value. -/
theorem read_eq_ok_of_lexed?_eq {s t : List Char} (h : lexed? t = lexed? s) {value : Json}
    (hs : read s = .ok value) : read t = .ok value := by
  apply toOption_eq_some_iff.1
  rw [toOption_read, h, ← toOption_read]
  exact toOption_eq_some_iff.2 hs

/-- In a text with a value no lexeme is at fault. -/
theorem lexed?_isSome_of_read {s : List Char} {value : Json} (hs : read s = .ok value) :
    (lexed? s).isSome := by
  have hvalue := toOption_eq_some_iff.2 hs
  rw [toOption_read] at hvalue
  obtain ⟨kinds, hkinds, -⟩ := Option.bind_eq_some_iff.1 hvalue
  rw [hkinds]
  rfl

end KeyChord.Json
