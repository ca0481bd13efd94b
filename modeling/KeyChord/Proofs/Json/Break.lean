import KeyChord.Json.Lexeme
import KeyChord.Proofs.Fallible

/-!
# Lexemes end before a line does

No lexeme holds a line break: a name or a number ends before it, and a quoted text may not hold one
unescaped. So whatever reads a part of a lexeme comes to the same result when a line break and more
text is put after its input, and leaves that text as well. Where it is at fault, it stays at fault,
though maybe with another fault, so the statements below are about results only.

* `IsBreak`: newlines and carriage returns.
* `StopsBefore t f`: text `t` after its input does not matter to the reader `f`.
* `stopsBefore_readNumber`, `stopsBefore_readText`, `stopsBefore_readScalar`: the readers.
* `textChar?`: quoted texts, one character at a time.
* `lexeme?_append`: **a lexeme ends before a line does.**
-/

namespace KeyChord.Json

open Fallible

/-- A character that ends a line, or the first of two. -/
def IsBreak (c : Char) : Prop :=
  c = '\n' ∨ c = '\r'

namespace IsBreak

variable {c : Char} (h : IsBreak c)

include h

theorem isSpace : isSpace c = true := by
  rcases h with rfl | rfl <;> rfl

theorem isDigit : c.isDigit = false := by
  rcases h with rfl | rfl <;> rfl

theorem hexDigit? : hexDigit? c = none := by
  rcases h with rfl | rfl <;> rfl

end IsBreak

/-- With `t` after its input, a reader comes to the same result and leaves `t` as well. -/
def StopsBefore {ε β : Type} (t : List Char) (f : List Char → Except ε (β × List Char)) : Prop :=
  ∀ s, (f (s ++ t)).toOption = (f s).toOption.map (Prod.map id (· ++ t))

/-! ## Digits -/

section

variable {c : Char} (hc : IsBreak c) (t : List Char)

include hc

theorem takeWhile_isDigit_append (s : List Char) :
    (s ++ c :: t).takeWhile Char.isDigit = s.takeWhile Char.isDigit := by
  induction s with
  | nil => simp [hc.isDigit]
  | cons d s ih => simp [List.takeWhile_cons, ih]

theorem dropWhile_isDigit_append (s : List Char) :
    (s ++ c :: t).dropWhile Char.isDigit = s.dropWhile Char.isDigit ++ c :: t := by
  induction s with
  | nil => simp [hc.isDigit]
  | cons d s ih =>
      by_cases hd : d.isDigit = true
      · simp [hd, ih]
      · simp [hd]

theorem exponentDigits_append (value : Nat) (s : List Char) :
    exponentDigits value (s ++ c :: t) =
      match exponentDigits value s with
      | .ok (n, rest) => .ok (n, rest ++ c :: t)
      | .error rest => .error (rest ++ c :: t) := by
  induction s generalizing value with
  | nil => simp [exponentDigits, hc.isDigit]
  | cons d s ih =>
      simp only [List.cons_append, exponentDigits]
      split
      · split
        · exact ih _
        · rfl
      · rfl

end

/-! ## Numbers -/

/-- Whether an exponent has a minus, and the exponent without its sign. -/
def exponentSign (s : List Char) : Bool × List Char :=
  match s with
  | '+' :: rest => (false, rest)
  | '-' :: rest => (true, rest)
  | _ => (false, s)

/-- Reads an exponent without a sign and finishes the number. -/
def readUnsigned (negative : Bool) (significand : Nat) (shift : Int) (down : Bool)
    (s : List Char) : Except Fault (JsonNumber × List Char) :=
  match s with
  | [] => .error (.before .endInValue [])
  | c :: rest =>
    if c.isDigit then
      match exponentDigits (digitOf c) rest with
      | .ok (value, rest) =>
        realNumber negative significand (if down then shift - value else shift + value) rest
      | .error rest =>
        if significand ≠ 0 && !down then .error (.before .numberOutOfRange rest)
        else .ok (.real (if negative then -0.0 else 0.0), rest.dropWhile Char.isDigit)
    else .error (.at .invalidNumber (c :: rest))

section

variable (negative : Bool) (significand : Nat) (shift : Int)

/-- An exponent is read sign first. -/
theorem readExponent_eq (s : List Char) :
    readExponent negative significand shift s =
      readUnsigned negative significand shift (exponentSign s).1 (exponentSign s).2 := rfl

/-- Without a letter for an exponent the number is finished. -/
theorem readTail_of_ne {d : Char} (he : d ≠ 'e') (hE : d ≠ 'E') (s : List Char) :
    readTail negative significand shift (d :: s) =
      realNumber negative significand shift (d :: s) := by
  apply readTail.eq_3
  · intro rest h
    exact he (List.cons.inj h).1
  · intro rest h
    exact hE (List.cons.inj h).1

/-- With neither a point nor a letter for an exponent the number is whole, unless digits of it had
to be skipped. -/
theorem afterWhole_of_ne (skipped : Nat) {d : Char} (hpoint : d ≠ '.') (he : d ≠ 'e')
    (hE : d ≠ 'E') (s : List Char) :
    afterWhole negative significand skipped (d :: s) =
      if skipped = 0 then .ok (wholeNumber negative significand, d :: s)
      else realNumber negative significand skipped (d :: s) := by
  apply afterWhole.eq_4
  · intro rest h
    exact hpoint (List.cons.inj h).1
  · intro rest h
    exact he (List.cons.inj h).1
  · intro rest h
    exact hE (List.cons.inj h).1

theorem stopsBefore_realNumber (exponent : Int) (t : List Char) :
    StopsBefore t (realNumber negative significand exponent) := by
  intro s
  unfold realNumber
  cases scaleToDouble significand exponent <;> rfl

variable {c : Char} (hc : IsBreak c) (t : List Char)

include hc

theorem exponentSign_append (s : List Char) :
    exponentSign (s ++ c :: t) = Prod.map id (· ++ c :: t) (exponentSign s) := by
  rcases s with _ | ⟨d, s⟩
  · rcases hc with rfl | rfl <;> rfl
  · by_cases hplus : d = '+'
    · subst hplus
      rfl
    · by_cases hminus : d = '-'
      · subst hminus
        rfl
      · simp [exponentSign, hplus, hminus]

theorem stopsBefore_readUnsigned (down : Bool) :
    StopsBefore (c :: t) (readUnsigned negative significand shift down) := by
  intro s
  rcases s with _ | ⟨d, s⟩
  · simp [readUnsigned, hc.isDigit, Except.toOption]
  · simp only [List.cons_append, readUnsigned]
    split
    · rw [exponentDigits_append hc t]
      cases exponentDigits (digitOf d) s with
      | ok result => exact stopsBefore_realNumber negative significand _ (c :: t) result.2
      | error rest =>
          simp only
          split
          · rfl
          · simp [dropWhile_isDigit_append hc t, Except.toOption]
    · rfl

theorem stopsBefore_readExponent :
    StopsBefore (c :: t) (readExponent negative significand shift) := by
  intro s
  rw [readExponent_eq, readExponent_eq, exponentSign_append hc t]
  exact stopsBefore_readUnsigned negative significand shift hc t _ _

theorem stopsBefore_readTail : StopsBefore (c :: t) (readTail negative significand shift) := by
  intro s
  rcases s with _ | ⟨d, s⟩
  · rcases hc with rfl | rfl
    · exact stopsBefore_realNumber negative significand shift ('\n' :: t) []
    · exact stopsBefore_realNumber negative significand shift ('\r' :: t) []
  · by_cases he : d = 'e'
    · subst he
      exact stopsBefore_readExponent negative significand shift hc t s
    by_cases hE : d = 'E'
    · subst hE
      exact stopsBefore_readExponent negative significand shift hc t s
    rw [List.cons_append, readTail_of_ne _ _ _ he hE, readTail_of_ne _ _ _ he hE]
    exact stopsBefore_realNumber negative significand shift (c :: t) (d :: s)

theorem stopsBefore_readFraction :
    StopsBefore (c :: t) (readFraction negative significand shift) := by
  intro s
  unfold readFraction
  rw [takeWhile_isDigit_append hc t, dropWhile_isDigit_append hc t]
  cases s.takeWhile Char.isDigit with
  | nil => cases s.dropWhile Char.isDigit <;> rfl
  | cons d digits => exact stopsBefore_readTail negative _ _ hc t (s.dropWhile Char.isDigit)

theorem stopsBefore_afterWhole (skipped : Nat) :
    StopsBefore (c :: t) (afterWhole negative significand skipped) := by
  have hplain : StopsBefore (c :: t) fun s =>
      if skipped = 0 then .ok (wholeNumber negative significand, s)
      else realNumber negative significand skipped s := by
    intro s
    by_cases hskipped : skipped = 0
    · simp [hskipped, Except.toOption]
    · simp only [if_neg hskipped]
      exact stopsBefore_realNumber negative significand skipped (c :: t) s
  intro s
  rcases s with _ | ⟨d, s⟩
  · rcases hc with rfl | rfl <;> exact hplain []
  · by_cases hpoint : d = '.'
    · subst hpoint
      exact stopsBefore_readFraction negative significand skipped hc t s
    by_cases he : d = 'e'
    · subst he
      exact stopsBefore_readExponent negative significand skipped hc t s
    by_cases hE : d = 'E'
    · subst hE
      exact stopsBefore_readExponent negative significand skipped hc t s
    rw [List.cons_append, afterWhole_of_ne _ _ _ hpoint he hE, afterWhole_of_ne _ _ _ hpoint he hE]
    exact hplain (d :: s)

omit significand shift in
theorem stopsBefore_readNumber : StopsBefore (c :: t) (readNumber negative) := by
  intro s
  rcases s with _ | ⟨d, s⟩
  · rcases hc with rfl | rfl <;> rfl
  by_cases hzero : d = '0'
  · subst hzero
    rcases s with _ | ⟨d, s⟩
    · have hend : readNumber negative ('0' :: c :: t) = afterWhole negative 0 0 (c :: t) := by
        simp [readNumber, hc.isDigit]
      rw [List.cons_append, List.nil_append, hend]
      exact stopsBefore_afterWhole negative 0 hc t 0 []
    · simp only [List.cons_append, readNumber]
      split
      · rfl
      · exact stopsBefore_afterWhole negative 0 hc t 0 (d :: s)
  · have htake := takeWhile_isDigit_append hc t (d :: s)
    have hdrop := dropWhile_isDigit_append hc t (d :: s)
    rw [List.cons_append] at htake hdrop
    simp only [List.cons_append, readNumber, htake, hdrop]
    split
    · exact stopsBefore_afterWhole negative _ hc t _ _
    · rfl

end

/-! ## Quoted texts -/

/-- The unit that four hexadecimal digits at the front spell. -/
def hexUnit? : List Char → Option (Nat × List Char)
  | a :: b :: c :: d :: rest => (hexWord? a b c d).map (·, rest)
  | _ => none

/-- The character of a pair whose first half is known. -/
def pairOf? (unit : Nat) : List Char → Option (Char × List Char)
  | '\\' :: 'u' :: rest =>
    (hexUnit? rest).bind fun (low, rest) =>
      if isTrailing low then some (paired unit low, rest) else none
  | _ => none

/-- The character of a numbered escape, whose letter is gone: that of one unit, or of two that make
a pair. -/
def numbered? (s : List Char) : Option (Char × List Char) :=
  (hexUnit? s).bind fun (unit, rest) =>
    if isTrailing unit then none
    else if isLeading unit then pairOf? unit rest
    else some (Char.ofNat unit, rest)

/-- The next character of a quoted text, if it is well written and not the end. -/
def textChar? : List Char → Option (Char × List Char)
  | '\\' :: 'u' :: rest => numbered? rest
  | '\\' :: c :: rest => (escaped? c).map (·, rest)
  | ['\\'] => none
  | c :: rest => if c = '"' ∨ c.toNat < 0x20 then none else some (c, rest)
  | [] => none

/-- A character that is not escaped. -/
theorem textChar?_of_ne {c : Char} (hc : c ≠ '\\') (s : List Char) :
    textChar? (c :: s) = if c = '"' ∨ c.toNat < 0x20 then none else some (c, s) := by
  apply textChar?.eq_4
  · intro rest h
    exact absurd h hc
  · intro d rest h
    exact absurd h hc
  · intro h
    exact absurd h hc

/-- A quoted text is read one character at a time. -/
theorem toOption_readText (done s : List Char) (hs : ∀ rest, s ≠ '"' :: rest) :
    (readText done s).toOption =
      (textChar? s).bind fun (c, rest) => (readText (c :: done) rest).toOption := by
  fun_cases readText done s
  case case2 rest => exact absurd rfl (hs rest)
  case case10 a b c d unit _ _ _ other _ hletter _ =>
    have hpair : pairOf? unit ('\\' :: other) = none := by
      apply pairOf?.eq_2
      intro rest h
      exact hletter rest (List.cons.inj h).2
    simp [textChar?, numbered?, hexUnit?, Except.toOption, *]
  case case19 c rest _ _ _ hend hletter hcode =>
    have hback : c ≠ '\\' := by
      intro h
      cases rest with
      | nil => exact hend h rfl
      | cons d rest => exact hletter d rest h rfl
    have hquote : c ≠ '"' := by
      intro h
      exact hs rest (by rw [h])
    rw [textChar?_of_ne hback, if_neg (by simp [hquote, hcode])]
    rfl
  -- everything else is read as one character or is at fault on both sides
  all_goals simp [textChar?, numbered?, pairOf?, hexUnit?, Except.toOption, *]

/-! A character takes at least one of the text. -/

theorem length_lt_of_hexUnit? {s rest : List Char} {unit : Nat}
    (h : hexUnit? s = some (unit, rest)) : rest.length < s.length := by
  unfold hexUnit? at h
  split at h
  · obtain ⟨_, -, hpair⟩ := Option.map_eq_some_iff.1 h
    obtain ⟨-, rfl⟩ := Prod.mk.inj hpair
    simp only [List.length_cons]
    omega
  · cases h

theorem length_lt_of_pairOf? {unit : Nat} {s rest : List Char} {c : Char}
    (h : pairOf? unit s = some (c, rest)) : rest.length < s.length := by
  unfold pairOf? at h
  split at h
  · obtain ⟨⟨low, later⟩, hlow, h⟩ := Option.bind_eq_some_iff.1 h
    have hlt := length_lt_of_hexUnit? hlow
    obtain ⟨-, hpair⟩ := Option.ite_none_right_eq_some.1 h
    obtain ⟨-, rfl⟩ := Prod.mk.inj (Option.some.inj hpair)
    simp only [List.length_cons]
    omega
  · cases h

theorem length_lt_of_numbered? {s rest : List Char} {c : Char}
    (h : numbered? s = some (c, rest)) : rest.length < s.length := by
  obtain ⟨⟨unit, after⟩, hunit, h⟩ := Option.bind_eq_some_iff.1 h
  have hlt := length_lt_of_hexUnit? hunit
  obtain ⟨-, h⟩ := Option.ite_none_left_eq_some.1 h
  split at h
  · exact Nat.lt_trans (length_lt_of_pairOf? h) hlt
  · obtain ⟨-, rfl⟩ := Prod.mk.inj (Option.some.inj h)
    exact hlt

theorem length_lt_of_textChar? {s rest : List Char} {c : Char}
    (h : textChar? s = some (c, rest)) : rest.length < s.length := by
  unfold textChar? at h
  split at h
  · have hlt := length_lt_of_numbered? h
    simp only [List.length_cons]
    omega
  · obtain ⟨_, -, hpair⟩ := Option.map_eq_some_iff.1 h
    obtain ⟨-, rfl⟩ := Prod.mk.inj hpair
    simp only [List.length_cons]
    omega
  · cases h
  · obtain ⟨-, h⟩ := Option.ite_none_left_eq_some.1 h
    obtain ⟨-, rfl⟩ := Prod.mk.inj (Option.some.inj h)
    simp
  · cases h

section

variable {c : Char} (hc : IsBreak c) (t : List Char)

include hc

/-- Where a break cuts the digits off, they spell nothing. -/
theorem hexUnit?_append (s : List Char) :
    hexUnit? (s ++ c :: t) = (hexUnit? s).map (Prod.map id (· ++ c :: t)) := by
  have hword (x y z : Char) : hexWord? c x y z = none ∧ hexWord? x c y z = none ∧
      hexWord? x y c z = none ∧ hexWord? x y z c = none := by
    simp [hexWord?, hc.hexDigit?]
  rcases s with _ | ⟨x, _ | ⟨y, _ | ⟨z, _ | ⟨w, s⟩⟩⟩⟩
  · rcases t with _ | ⟨x, _ | ⟨y, _ | ⟨z, t⟩⟩⟩ <;> simp [hexUnit?, hword]
  · rcases t with _ | ⟨y, _ | ⟨z, t⟩⟩ <;> simp [hexUnit?, hword]
  · rcases t with _ | ⟨z, t⟩ <;> simp [hexUnit?, hword]
  · simp [hexUnit?, hword]
  · simp [hexUnit?, Function.comp_def]

theorem pairOf?_append (unit : Nat) (s : List Char) :
    pairOf? unit (s ++ c :: t) = (pairOf? unit s).map (Prod.map id (· ++ c :: t)) := by
  have hnone {r : List Char} (hr : ∀ rest, r ≠ '\\' :: 'u' :: rest) : pairOf? unit r = none :=
    pairOf?.eq_2 unit r hr
  rcases s with _ | ⟨d, _ | ⟨e, s⟩⟩
  · rw [List.nil_append, hnone (by rcases hc with rfl | rfl <;> simp), hnone (by simp)]
    rfl
  · rw [List.cons_append, List.nil_append, hnone (by rcases hc with rfl | rfl <;> simp),
      hnone (by simp)]
    rfl
  by_cases hletters : d = '\\' ∧ e = 'u'
  · obtain ⟨rfl, rfl⟩ := hletters
    simp only [List.cons_append, pairOf?, hexUnit?_append hc t]
    cases hexUnit? s with
    | none => rfl
    | some found =>
        simp only [Option.map_some, Option.bind_some, Prod.map_fst, Prod.map_snd, id_eq]
        by_cases hlow : isTrailing found.1 = true
        · rw [if_pos hlow, if_pos hlow, Option.map_some, Prod.map_apply, id_eq]
        · rw [if_neg hlow, if_neg hlow, Option.map_none]
  · rw [hnone (by simpa using hletters), hnone (by simpa using hletters)]
    rfl

theorem numbered?_append (s : List Char) :
    numbered? (s ++ c :: t) = (numbered? s).map (Prod.map id (· ++ c :: t)) := by
  unfold numbered?
  rw [hexUnit?_append hc t]
  cases hexUnit? s with
  | none => rfl
  | some found =>
      simp only [Option.map_some, Option.bind_some, Prod.map_fst, Prod.map_snd, id_eq]
      by_cases htrailing : isTrailing found.1 = true
      · simp [htrailing]
      by_cases hleading : isLeading found.1 = true
      · simp [htrailing, hleading, pairOf?_append hc t]
      · simp [htrailing, hleading]

theorem textChar?_append (s : List Char) :
    textChar? (s ++ c :: t) = (textChar? s).map (Prod.map id (· ++ c :: t)) := by
  rcases s with _ | ⟨d, s⟩
  · rcases hc with rfl | rfl <;> rfl
  by_cases hback : d = '\\'
  · subst hback
    rcases s with _ | ⟨e, s⟩
    · rcases hc with rfl | rfl <;> rfl
    · by_cases hletter : e = 'u'
      · subst hletter
        exact numbered?_append hc t s
      · simp [textChar?, Function.comp_def]
  · rw [List.cons_append, textChar?_of_ne hback, textChar?_of_ne hback]
    split <;> rfl

theorem stopsBefore_readText (done : List Char) : StopsBefore (c :: t) (readText done) := by
  intro s
  induction hn : s.length using Nat.strongRecOn generalizing s done with
  | ind n ih =>
      by_cases hquote : ∃ rest, s = '"' :: rest
      · obtain ⟨rest, rfl⟩ := hquote
        rfl
      have hs : ∀ rest, s ≠ '"' :: rest := fun rest h => hquote ⟨rest, h⟩
      have hs' : ∀ rest, s ++ c :: t ≠ '"' :: rest := by
        intro rest h
        rcases s with _ | ⟨d, s⟩
        · rcases hc with rfl | rfl <;> cases h
        · exact hs s (by rw [(List.cons.inj h).1])
      rw [toOption_readText done s hs, toOption_readText done _ hs', textChar?_append hc t]
      cases hnext : textChar? s with
      | none => rfl
      | some next =>
          obtain ⟨d, rest⟩ := next
          have hlt : rest.length < n := hn ▸ length_lt_of_textChar? hnext
          exact ih rest.length hlt (d :: done) rest rfl

end

/-! ## Names -/

theorem readName_append {c : Char} {name : List Char} (hname : c ∉ name) (s t : List Char) :
    (readName name (s ++ c :: t)).toOption = (readName name s).toOption.map (· ++ c :: t) := by
  induction name generalizing s with
  | nil => simp [readName, Except.toOption]
  | cons expected name ih =>
      simp only [List.mem_cons, not_or] at hname
      rcases s with _ | ⟨d, s⟩
      · simp [readName, Except.toOption, hname.1]
      · simp only [List.cons_append, readName]
        split
        · exact ih hname.2 s
        · rfl

/-- A scalar that begins like no name and has no minus is a number. -/
theorem readScalar_of_ne {d : Char} (hn : d ≠ 'n') (ht : d ≠ 't') (hf : d ≠ 'f') (hminus : d ≠ '-')
    (s : List Char) :
    readScalar (d :: s) =
      if d.isDigit then (readNumber false (d :: s)).map fun (n, r) => (.number n, r)
      else .error (.at .expectedValue (d :: s)) := by
  apply readScalar.eq_5
  · exact hn
  · exact ht
  · exact hf
  · exact hminus

section

variable {c : Char} (hc : IsBreak c) (t : List Char)

include hc

theorem stopsBefore_readScalar : StopsBefore (c :: t) readScalar := by
  have hname {name : List Char} (value : Json) (hname : c ∉ name) : StopsBefore (c :: t) fun s =>
      (readName name s).map fun r => (value, r) := by
    intro s
    simp only [toOption_map, readName_append hname s t, Option.map_map]
    rfl
  have hnumber (negative : Bool) : StopsBefore (c :: t) fun s =>
      (readNumber negative s).map fun (n, r) => (Json.number n, r) := by
    intro s
    simp only [toOption_map, stopsBefore_readNumber negative hc t s, Option.map_map]
    rfl
  intro s
  rcases s with _ | ⟨d, s⟩
  · rcases hc with rfl | rfl <;> rfl
  by_cases hn : d = 'n'
  · subst hn
    exact hname .null (by rcases hc with rfl | rfl <;> decide) s
  by_cases ht : d = 't'
  · subst ht
    exact hname (.bool true) (by rcases hc with rfl | rfl <;> decide) s
  by_cases hf : d = 'f'
  · subst hf
    exact hname (.bool false) (by rcases hc with rfl | rfl <;> decide) s
  by_cases hminus : d = '-'
  · subst hminus
    exact hnumber true s
  rw [List.cons_append, readScalar_of_ne hn ht hf hminus, readScalar_of_ne hn ht hf hminus]
  split
  · exact hnumber false (d :: s)
  · rfl

end

/-! ## Lexemes -/

/-- What a lexeme is, unless it is at fault. -/
def LexemeKind.result? : LexemeKind → Option LexemeKind
  | badScalar _ => none
  | badText _ => none
  | kind => some kind

/-- The lexeme that begins with `d` and what follows it, unless it is at fault. -/
def lexeme? (d : Char) (s : List Char) : Option (LexemeKind × List Char) :=
  (readLexeme d s).1.result?.map (·, (readLexeme d s).2)

theorem lexeme?_eq (d : Char) (s : List Char) :
    lexeme? d s =
      match mark? d with
      | some m => some (.mark m, s)
      | none =>
        if d = '"' then (readText [] s).toOption.map (Prod.map .text id)
        else (readScalar (d :: s)).toOption.map (Prod.map .scalar id) := by
  unfold lexeme? readLexeme
  cases mark? d with
  | some m => rfl
  | none =>
      by_cases hquote : d = '"'
      · simp only [if_pos hquote]
        cases readText [] s <;> rfl
      · simp only [if_neg hquote]
        cases readScalar (d :: s) <;> rfl

/-- **A lexeme ends before a line does.** -/
theorem lexeme?_append {c : Char} (hc : IsBreak c) (t : List Char) (d : Char) (s : List Char) :
    lexeme? d (s ++ c :: t) = (lexeme? d s).map (Prod.map id (· ++ c :: t)) := by
  rw [lexeme?_eq, lexeme?_eq]
  cases mark? d with
  | some m => rfl
  | none =>
      by_cases hquote : d = '"'
      · simp only [if_pos hquote, stopsBefore_readText hc t [] s, Option.map_map]
        rfl
      · have hscalar := stopsBefore_readScalar hc t (d :: s)
        rw [List.cons_append] at hscalar
        simp only [if_neg hquote, hscalar, Option.map_map]
        rfl

end KeyChord.Json
