import KeyChord.Proofs.Action.Template
import KeyChord.Proofs.Text.Lines

/-!
# The language of commands

A command is read from the left as a row of tokens: a character, which is written twice if it is a
brace, or a field between braces. A field ends at the first closing brace and may hold anything
else, but not begin with another opening brace, which would make the first one a doubled brace. So
there is nothing to choose when a command is cut into tokens, and the reader has only to number the
fields: all of them are empty and are counted, or each spells its index.

* `Token`, `Token.written`, `Token.Proper`: the tokens and how they are written.
* `Numbered fields indices`: the indices of the fields, counted or spelt.
* `WellFormed source tokens indices`: what a command is.
* `Template.ofText_eq_ok_iff`: the templates that are read, piece by piece.
* `Template.ofText_language`: **the commands that are read are the well-formed ones, and filling
  them puts the captures where the fields stand.**
-/

namespace KeyChord.Action

open Fallible

/-! ## Tokens -/

/-- A token of a command. -/
inductive Token where
  | plain (c : Char)
  /-- A field with what stands between its braces. -/
  | field (text : List Char)
  deriving DecidableEq, Repr

namespace Token

/-- How a token is written: a brace that is meant as such is doubled. -/
def written : Token → List Char
  | plain c => if c = '\x7b' ∨ c = '\x7d' then [c, c] else [c]
  | field text => '\x7b' :: text ++ ['\x7d']

/-- A field is read as itself if it neither ends early nor begins as a doubled brace does. -/
def Proper : Token → Prop
  | plain _ => True
  | field text => '\x7d' ∉ text ∧ text.head? ≠ some '\x7b'

/-- What stands between the braces of a field. -/
def field? : Token → Option (List Char)
  | plain _ => none
  | field text => some text

/-- The piece that a token stands for. Which slot a field stands for is left open. -/
inductive Means : Token → Piece → Prop
  | plain (c : Char) : Means (.plain c) (.plain c)
  | field (text : List Char) (index : Nat) : Means (.field text) (.slot index)

/-- The piece of a token as the reader makes it, and the numbering from there on. -/
def resolve (numbering : Numbering) : Token → Except TemplateFault (Piece × Numbering)
  | plain c => .ok (.plain c, numbering)
  | field text => (slotOf text numbering).map fun r => (.slot r.1, r.2)

theorem length_written_pos (token : Token) : 0 < token.written.length := by
  cases token with
  | plain c =>
      rw [written]
      split <;> simp
  | field text => simp [written]

end Token

/-- The fields of a row of tokens, in order. -/
def fields (tokens : List Token) : List (List Char) :=
  tokens.filterMap Token.field?

/-! ## Reading tokens -/

section scanner

variable {numbering : Numbering} {text rest : List Char}

/-- A field is read up to the first closing brace. -/
theorem readPieces_inField (htext : '\x7d' ∉ text) (sofar : List Char) :
    readPieces numbering (some sofar) (text ++ '\x7d' :: rest) =
      slotOf (sofar.reverse ++ text) numbering >>= fun r =>
        (readPieces r.2 none rest).map (.slot r.1 :: ·) := by
  induction text generalizing sofar with
  | nil =>
      rw [List.nil_append, List.append_nil, readPieces, if_pos rfl]
      rfl
  | cons c text ih =>
      rw [List.mem_cons, not_or] at htext
      rw [List.cons_append, readPieces, if_neg (Ne.symm htext.1), ih htext.2, List.reverse_cons,
        List.append_assoc, List.singleton_append]

/-- A field without a closing brace is not closed. -/
theorem readPieces_inField_unclosed (htext : '\x7d' ∉ text) (sofar : List Char) :
    readPieces numbering (some sofar) text = .error .unclosed := by
  induction text generalizing sofar with
  | nil => rfl
  | cons c text ih =>
      rw [List.mem_cons, not_or] at htext
      rw [readPieces, if_neg (Ne.symm htext.1), ih htext.2]

/-- An opening brace that is not doubled opens a field. -/
theorem readPieces_open (h : rest.head? ≠ some '\x7b') :
    readPieces numbering none ('\x7b' :: rest) = readPieces numbering (some []) rest := by
  apply readPieces.eq_6
  rintro rest rfl
  exact h rfl

/-- A closing brace that is not doubled is at fault. -/
theorem readPieces_stray (h : rest.head? ≠ some '\x7d') :
    readPieces numbering none ('\x7d' :: rest) = .error .strayClose := by
  apply readPieces.eq_5
  rintro rest rfl
  exact h rfl

end scanner

/-- **A token at the front is read as its piece**, whatever follows. -/
theorem readPieces_token {token : Token} (h : token.Proper) (numbering : Numbering)
    (rest : List Char) : readPieces numbering none (token.written ++ rest) =
      token.resolve numbering >>= fun r => (readPieces r.2 none rest).map (r.1 :: ·) := by
  cases token with
  | plain c =>
      rw [Token.written]
      split
      · rename_i hbrace
        rcases hbrace with rfl | rfl
        · exact readPieces.eq_3 numbering rest
        · exact readPieces.eq_4 numbering rest
      · rename_i hbrace
        rw [not_or] at hbrace
        exact readPieces.eq_7 numbering c rest hbrace.2 hbrace.1
          (fun _ hc => absurd hc hbrace.1) fun _ hc => absurd hc hbrace.2
  | field text =>
      have hfirst : (text ++ '\x7d' :: rest).head? ≠ some '\x7b' := by
        cases text with
        | nil =>
            show some '\x7d' ≠ some '\x7b'
            decide
        | cons c text => exact h.2
      have hwritten : (Token.field text).written ++ rest = '\x7b' :: (text ++ '\x7d' :: rest) := by
        simp [Token.written]
      rw [hwritten, readPieces_open hfirst, readPieces_inField h.1, List.reverse_nil,
        List.nil_append, Token.resolve]
      cases slotOf text numbering <;> rfl

/-- What stands at the front of a text that is read is a token. -/
theorem exists_token_of_readPieces {numbering : Numbering} {s : List Char} {pieces : List Piece}
    (hne : s ≠ []) (h : readPieces numbering none s = .ok pieces) :
    ∃ (token : Token) (rest : List Char), token.Proper ∧ s = token.written ++ rest := by
  obtain ⟨c, rest, rfl⟩ := List.exists_cons_of_ne_nil hne
  by_cases hdouble : (c = '\x7b' ∨ c = '\x7d') ∧ rest.head? = some c
  · obtain ⟨hbrace, hrest⟩ := hdouble
    obtain ⟨rest, rfl⟩ := List.head?_eq_some_iff.1 hrest
    exact ⟨.plain c, rest, trivial, by simp [Token.written, hbrace]⟩
  · by_cases hopen : c = '\x7b'
    · subst hopen
      have hfirst : rest.head? ≠ some '\x7b' := fun hfirst => hdouble ⟨.inl rfl, hfirst⟩
      by_cases hclose : '\x7d' ∈ rest
      · -- the field ends at the first closing brace
        obtain ⟨text, after, rfl, htext⟩ := List.eq_append_cons_of_mem hclose
        refine ⟨.field text, after, ⟨htext, fun htextFirst => ?_⟩, by simp [Token.written]⟩
        obtain ⟨text, rfl⟩ := List.head?_eq_some_iff.1 htextFirst
        exact hfirst rfl
      · rw [readPieces_open hfirst, readPieces_inField_unclosed hclose] at h
        cases h
    · by_cases hclose : c = '\x7d'
      · subst hclose
        rw [readPieces_stray fun hfirst => hdouble ⟨.inr rfl, hfirst⟩] at h
        cases h
      · exact ⟨.plain c, rest, trivial, by simp [Token.written, hopen, hclose]⟩

/-! ## Numbering fields -/

/-- The text spells an index: digits, after at most one plus sign. -/
def SpellsIndex (text : List Char) (index : Nat) : Prop :=
  index < indexLimit ∧ ∃ digits, (text = digits ∨ text = '+' :: digits) ∧ digits ≠ [] ∧
    (∀ c ∈ digits, c.isDigit = true) ∧ Nat.ofDigitChars 10 digits 0 = index

/-- The fields have these indices: all of them are empty and are counted from zero, or each spells
its own. -/
def Numbered (fields : List (List Char)) (indices : List Nat) : Prop :=
  ((∀ text ∈ fields, text = []) ∧ indices = List.range fields.length) ∨
    List.Forall₂ SpellsIndex fields indices

/-- The fields that are still to come have these indices. -/
def Numbering.Admits : Numbering → List (List Char) → List Nat → Prop
  | undecided, fields, indices => Numbered fields indices
  | counted next, fields, indices =>
    (∀ text ∈ fields, text = []) ∧ indices = List.range' next fields.length
  | numbered, fields, indices => List.Forall₂ SpellsIndex fields indices

theorem unsigned?_eq_some_iff_spellsIndex {text : List Char} {index : Nat} :
    Text.unsigned? indexLimit text = some index ↔ SpellsIndex text index :=
  Text.unsigned?_eq_some_iff

theorem not_spellsIndex_nil (index : Nat) : ¬ SpellsIndex [] index := by
  rintro ⟨-, digits, hdigits | hdigits, hne, -⟩
  · exact hne hdigits.symm
  · cases hdigits

namespace Numbering

variable {text : List Char} {fields : List (List Char)} {index : Nat} {indices : List Nat}

theorem admits_nil (numbering : Numbering) : numbering.Admits [] indices ↔ indices = [] := by
  cases numbering <;> simp [Admits, Numbered]

/-- Until there is a field, both ways of numbering are open. -/
theorem admits_undecided_iff : undecided.Admits fields indices ↔
    (counted 0).Admits fields indices ∨ numbered.Admits fields indices := by
  simp only [Admits, Numbered, List.range_eq_range']

theorem admits_counted_cons {next : Nat} :
    (counted next).Admits (text :: fields) (index :: indices) ↔
      text = [] ∧ index = next ∧ (counted (next + 1)).Admits fields indices := by
  simp only [Admits, List.forall_mem_cons, List.length_cons, List.range'_succ, List.cons.injEq]
  tauto

theorem admits_numbered_cons : numbered.Admits (text :: fields) (index :: indices) ↔
    SpellsIndex text index ∧ numbered.Admits fields indices :=
  List.forall₂_cons

end Numbering

/-- A field that is not empty has the index that it spells, unless fields are counted. -/
theorem slotOf_cons_eq_ok_iff {c : Char} {cs : List Char} {numbering next : Numbering}
    {index : Nat} (h : ∀ n, numbering ≠ .counted n) :
    slotOf (c :: cs) numbering = .ok (index, next) ↔
      SpellsIndex (c :: cs) index ∧ next = .numbered := by
  rw [slotOf.eq_5 numbering c cs h, ← unsigned?_eq_some_iff_spellsIndex]
  cases Text.unsigned? indexLimit (c :: cs) <;> simp [eq_comm]

/-- **The next field settles the numbering and takes its index.** -/
theorem Numbering.admits_cons (numbering : Numbering) (text : List Char)
    (fields : List (List Char)) (index : Nat) (indices : List Nat) :
    numbering.Admits (text :: fields) (index :: indices) ↔
      ∃ next, slotOf text numbering = .ok (index, next) ∧ next.Admits fields indices := by
  cases text with
  | nil =>
      cases numbering with
      | undecided =>
          rw [admits_undecided_iff, admits_counted_cons, admits_numbered_cons]
          simp [slotOf, not_spellsIndex_nil, eq_comm]
      | counted n =>
          rw [admits_counted_cons]
          simp [slotOf, eq_comm]
      | numbered =>
          rw [admits_numbered_cons]
          simp [slotOf, not_spellsIndex_nil]
  | cons c cs =>
      cases numbering with
      | undecided =>
          rw [admits_undecided_iff, admits_counted_cons, admits_numbered_cons]
          simp [slotOf_cons_eq_ok_iff, and_assoc]
      | counted n =>
          rw [admits_counted_cons]
          simp [slotOf]
      | numbered =>
          rw [admits_numbered_cons]
          simp [slotOf_cons_eq_ok_iff, and_assoc]

/-! ## Rows of tokens -/

/-- The pieces of a row of tokens as the reader makes them. -/
def resolveAll (numbering : Numbering) : List Token → Except TemplateFault (List Piece)
  | [] => .ok []
  | token :: tokens =>
    token.resolve numbering >>= fun r => (resolveAll r.2 tokens).map (r.1 :: ·)

/-- Tokens that are written one after another are read one after another. -/
theorem readPieces_tokens {tokens : List Token} (h : ∀ token ∈ tokens, token.Proper)
    (numbering : Numbering) :
    readPieces numbering none (tokens.flatMap Token.written) = resolveAll numbering tokens := by
  induction tokens generalizing numbering with
  | nil => rfl
  | cons token tokens ih =>
      obtain ⟨htoken, htokens⟩ := List.forall_mem_cons.1 h
      rw [List.flatMap_cons, readPieces_token htoken, resolveAll]
      simp only [ih htokens]

/-- **A text that is read is a row of tokens.** -/
theorem exists_tokens_of_readPieces {numbering : Numbering} {s : List Char} {pieces : List Piece}
    (h : readPieces numbering none s = .ok pieces) :
    ∃ tokens : List Token, (∀ token ∈ tokens, token.Proper) ∧ s = tokens.flatMap Token.written := by
  induction hn : s.length using Nat.strong_induction_on generalizing s numbering pieces with
  | _ n ih =>
      by_cases hne : s = []
      · exact ⟨[], nofun, hne⟩
      · obtain ⟨token, rest, htoken, rfl⟩ := exists_token_of_readPieces hne h
        rw [readPieces_token htoken] at h
        obtain ⟨r, -, hrest⟩ := bind_eq_ok_iff.1 h
        obtain ⟨pieces', hpieces', -⟩ := map_eq_ok_iff.1 hrest
        have hlt : rest.length < n := by
          have := token.length_written_pos
          rw [← hn, List.length_append]
          omega
        obtain ⟨tokens, htokens, rfl⟩ := ih rest.length hlt hpieces' rfl
        exact ⟨token :: tokens, List.forall_mem_cons.2 ⟨htoken, htokens⟩, rfl⟩

/-- **The pieces that a row of tokens comes to**: each token's own, with the slots numbered as the
fields are. -/
theorem resolveAll_eq_ok_iff {tokens : List Token} {numbering : Numbering} {pieces : List Piece} :
    resolveAll numbering tokens = .ok pieces ↔
      List.Forall₂ Token.Means tokens pieces ∧
        numbering.Admits (fields tokens) (pieces.filterMap Piece.slot?) := by
  induction tokens generalizing numbering pieces with
  | nil =>
      rw [List.forall₂_nil_left_iff]
      constructor
      · intro h
        cases h
        exact ⟨rfl, numbering.admits_nil.2 rfl⟩
      · rintro ⟨rfl, -⟩
        rfl
  | cons token tokens ih =>
      rw [resolveAll, bind_eq_ok_iff]
      simp only [map_eq_ok_iff, ih]
      cases token with
      | plain c =>
          constructor
          · rintro ⟨_, h, pieces, ⟨hmeans, hadmits⟩, rfl⟩
            cases h
            exact ⟨.cons (.plain c) hmeans, hadmits⟩
          · rintro ⟨hmeans, hadmits⟩
            cases hmeans with
            | cons hplain hmeans =>
                cases hplain
                exact ⟨_, rfl, _, ⟨hmeans, hadmits⟩, rfl⟩
      | field text =>
          constructor
          · rintro ⟨_, h, pieces, ⟨hmeans, hadmits⟩, rfl⟩
            obtain ⟨⟨index, next⟩, hslot, rfl⟩ := map_eq_ok_iff.1 h
            exact ⟨.cons (.field text index) hmeans,
              (numbering.admits_cons text _ index _).2 ⟨next, hslot, hadmits⟩⟩
          · rintro ⟨hmeans, hadmits⟩
            cases hmeans with
            | @cons _ _ _ pieces hfield hmeans =>
                cases hfield with
                | field _ index =>
                    obtain ⟨next, hslot, hadmits⟩ :=
                      (numbering.admits_cons text _ index _).1 hadmits
                    exact ⟨(.slot index, next), map_eq_ok_iff.2 ⟨_, hslot, rfl⟩, pieces,
                      ⟨hmeans, hadmits⟩, rfl⟩

/-! ## Commands -/

/-- The source is written as these tokens, and its fields have these indices. -/
structure WellFormed (source : String) (tokens : List Token) (indices : List Nat) : Prop where
  proper : ∀ token ∈ tokens, token.Proper
  eq : source.toList = tokens.flatMap Token.written
  numbered : Numbered (fields tokens) indices

/-- What the tokens come to with some captures, where the fields have these indices. A capture is
copied as it is. -/
inductive Filled (captures : List String) : List Token → List Nat → List Char → Prop
  | nil : Filled captures [] [] []
  | plain (c : Char) {tokens : List Token} {indices : List Nat} {text : List Char}
      (h : Filled captures tokens indices text) :
      Filled captures (.plain c :: tokens) indices (c :: text)
  | field (name : List Char) {index : Nat} {capture : String} {tokens : List Token}
      {indices : List Nat} {text : List Char} (hcapture : captures[index]? = some capture)
      (h : Filled captures tokens indices text) :
      Filled captures (.field name :: tokens) (index :: indices) (capture.toList ++ text)

/-- There are as many indices as fields. -/
theorem Numbered.length_eq {fields : List (List Char)} {indices : List Nat}
    (h : Numbered fields indices) : fields.length = indices.length := by
  rcases h with ⟨-, rfl⟩ | h
  · rw [List.length_range]
  · exact h.length_eq

/-- Any indices make pieces of the tokens. -/
theorem exists_pieces {tokens : List Token} {indices : List Nat}
    (h : (fields tokens).length = indices.length) :
    ∃ pieces, List.Forall₂ Token.Means tokens pieces ∧
      pieces.filterMap Piece.slot? = indices := by
  induction tokens generalizing indices with
  | nil => exact ⟨[], .nil, (List.length_eq_zero_iff.1 h.symm).symm⟩
  | cons token tokens ih =>
      cases token with
      | plain c =>
          obtain ⟨pieces, hmeans, hindices⟩ := ih h
          exact ⟨.plain c :: pieces, .cons (.plain c) hmeans, hindices⟩
      | field text =>
          obtain ⟨index, indices, rfl⟩ := List.exists_cons_of_length_eq_add_one h.symm
          obtain ⟨pieces, hmeans, rfl⟩ := ih (Nat.succ.inj h)
          exact ⟨.slot index :: pieces, .cons (.field text index) hmeans, rfl⟩

/-- What the pieces are filled with is what their tokens come to. -/
theorem filled_of_forall₂ {captures : List String} {tokens : List Token} {pieces : List Piece}
    {texts : List String} (hmeans : List.Forall₂ Token.Means tokens pieces)
    (h : List.Forall₂ (fun piece text => Template.fillPiece captures piece = .ok text)
      pieces texts) :
    Filled captures tokens (pieces.filterMap Piece.slot?) (String.join texts).toList := by
  induction hmeans generalizing texts with
  | nil =>
      cases h
      exact .nil
  | cons hmeans _ ih =>
      cases h with
      | @cons _ text _ texts htext htexts =>
          rw [String.join_cons, String.toList_append]
          cases hmeans with
          | plain c =>
              obtain rfl : c.toString = text := Except.ok.inj htext
              rw [Char.toString_eq_singleton, String.toList_singleton]
              exact .plain c (ih htexts)
          | field name index =>
              exact .field name (Template.fillPiece_slot_eq_ok_iff.1 htext) (ih htexts)

/-- **The templates that are read**: the source is well-formed, and each token has its piece. -/
theorem Template.ofText_eq_ok_iff {source : String} {t : Template} : ofText source = .ok t ↔
    t.source = source ∧
      ∃ tokens, WellFormed source tokens t.slots ∧ List.Forall₂ Token.Means tokens t.pieces := by
  unfold ofText
  constructor
  · intro h
    split at h
    · rename_i pieces hread
      cases h
      obtain ⟨tokens, hproper, hsource⟩ := exists_tokens_of_readPieces hread
      rw [hsource, readPieces_tokens hproper, resolveAll_eq_ok_iff] at hread
      exact ⟨rfl, tokens, ⟨hproper, hsource, hread.2⟩, hread.1⟩
    · cases h
  · rintro ⟨rfl, tokens, ⟨hproper, hsource, hnumbered⟩, hmeans⟩
    have hread : readPieces .undecided none t.source.toList = .ok t.pieces := by
      rw [hsource, readPieces_tokens hproper, resolveAll_eq_ok_iff]
      exact ⟨hmeans, hnumbered⟩
    rw [hread]

/-- A well-formed source is read, and its slots are its fields. -/
theorem WellFormed.exists_template {source : String} {tokens : List Token} {indices : List Nat}
    (h : WellFormed source tokens indices) : ∃ t, Template.ofText source = .ok t ∧
      t.source = source ∧ t.slots = indices ∧ List.Forall₂ Token.Means tokens t.pieces := by
  obtain ⟨pieces, hmeans, rfl⟩ := exists_pieces h.numbered.length_eq
  exact ⟨⟨source, pieces⟩, Template.ofText_eq_ok_iff.2 ⟨rfl, tokens, h, hmeans⟩, rfl, rfl, hmeans⟩

/-- **The language of commands.** A command is read exactly if it is well-formed. Filling it
succeeds exactly if there is a capture for the index of every field, and then copies the plain
characters and the captures in order. Else it fails, and names the first index that has no
capture. -/
theorem Template.ofText_language (source : String) :
    ((∃ t, ofText source = .ok t) ↔ ∃ tokens indices, WellFormed source tokens indices) ∧
    ∀ tokens indices, WellFormed source tokens indices →
      ∃ t, ofText source = .ok t ∧ ∀ captures : List String,
        ((∃ text, t.fill captures = .ok text) ↔ ∀ index ∈ indices, index < captures.length) ∧
        (∀ text, t.fill captures = .ok text → Filled captures tokens indices text.toList) ∧
        ∀ e, t.fill captures = .error e → ∃ before index after,
          indices = before ++ index :: after ∧ (∀ i ∈ before, i < captures.length) ∧
          captures.length ≤ index ∧ e = ⟨.missingCapture index captures.length, source⟩ := by
  refine ⟨⟨?_, ?_⟩, ?_⟩
  · rintro ⟨t, ht⟩
    obtain ⟨-, tokens, hwell, -⟩ := ofText_eq_ok_iff.1 ht
    exact ⟨tokens, t.slots, hwell⟩
  · rintro ⟨tokens, indices, hwell⟩
    obtain ⟨t, ht, -⟩ := hwell.exists_template
    exact ⟨t, ht⟩
  · intro tokens indices hwell
    obtain ⟨t, ht, rfl, rfl, hmeans⟩ := hwell.exists_template
    refine ⟨t, ht, fun captures => ⟨exists_fill_iff, fun text hfill => ?_, fun e he => ?_⟩⟩
    · obtain ⟨texts, rfl, htexts⟩ := fill_eq_ok_iff.1 hfill
      exact filled_of_forall₂ hmeans htexts
    · exact shortage?_eq_some_iff.1 (fill_eq_error_iff.1 he)

/-- The first two opening braces are one character, and the third opens a field with the index one,
which ends at the first closing brace. The braces of a capture mean nothing. -/
theorem Template.ofText_language_braces :
    let source := "\x7b\x7b\x7b+1\x7d\x7d\x7d\x7b00\x7d"
    let tokens : List Token :=
      [.plain '\x7b', .field ['+', '1'], .plain '\x7d', .field ['0', '0']]
    WellFormed source tokens [1, 0] ∧ ∃ t, ofText source = .ok t ∧
      t.fill ["a", "\x7b7\x7d"] = .ok "\x7b\x7b7\x7d\x7da" ∧
      Filled ["a", "\x7b7\x7d"] tokens [1, 0] "\x7b\x7b7\x7d\x7da".toList ∧
      t.fill ["a"] = .error ⟨.missingCapture 1 1, source⟩ := by
  intro source tokens
  have hone : SpellsIndex ['+', '1'] 1 :=
    ⟨by decide, ['1'], .inr rfl, nofun, by simp, rfl⟩
  have hzero : SpellsIndex ['0', '0'] 0 :=
    ⟨by decide, ['0', '0'], .inl rfl, nofun, by simp, rfl⟩
  have hwell : WellFormed source tokens [1, 0] :=
    ⟨by simp [tokens, Token.Proper], by decide +kernel, .inr (.cons hone (.cons hzero .nil))⟩
  obtain ⟨t, ht, hfill⟩ := (ofText_language source).2 tokens [1, 0] hwell
  have hvalue : ofText source =
      .ok ⟨source, [.plain '\x7b', .slot 1, .plain '\x7d', .slot 0]⟩ := by
    decide +kernel
  obtain rfl := Except.ok.inj (ht.symm.trans hvalue)
  have hfilled : fill ⟨source, [.plain '\x7b', .slot 1, .plain '\x7d', .slot 0]⟩
      ["a", "\x7b7\x7d"] = .ok "\x7b\x7b7\x7d\x7da" := by
    decide +kernel
  exact ⟨hwell, _, ht, hfilled, (hfill _).2.1 _ hfilled, by decide +kernel⟩

end KeyChord.Action
