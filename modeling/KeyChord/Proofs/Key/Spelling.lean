import KeyChord.Key.Namespace
import Mathlib

/-!
# Which names mean the same key

A name is resolved without its brackets and in capital letters, and what is left is looked up in the
kernel's table, where two codes have two names each. So two names that resolve mean the same key
exactly if they are spelt alike up to brackets and case, or if they are the two names of such a
code.

* `firstName`: the first of the names of a code.
* `names_ascend`: the table lists codes in ascending order, the names of one code together.
* `code_eq_iff`: two names in the table have one code exactly if their first names are equal.
* `SameLetters`: texts that differ in the case of letters only.
* `Namespace.kernelName_eq_iff`: spelt alike up to brackets and case.
* `Namespace.resolve?_congr`: names that differ in the case of letters only mean the same.
* `Namespace.Unbracketed`: names that lose no bracket when they are resolved.
* `Namespace.resolve?_eq_iff`: two names mean the same key.
-/

namespace KeyChord.Key

/-! ## The table -/

/-- The name that stands for the code of a name: its own, unless the code has an earlier one. -/
def firstName (name : String) : String :=
  match name with
  | "KEY_ROTATE_DISPLAY" => "KEY_DIRECTION"
  | "KEY_FULL_SCREEN" => "KEY_ZOOM"
  | name => name

/-- Two names of one code. -/
def Synonymous (a b : String) : Prop :=
  a ≠ b ∧ firstName a = firstName b

/-- One entry of the table comes before another: its code is less, or the two are names of one
code. -/
def Precedes (x y : String × Code) : Prop :=
  x.2 < y.2 ∨ x.2 = y.2 ∧ firstName x.1 = firstName y.1

instance : DecidableRel Precedes := fun x y =>
  inferInstanceAs (Decidable (x.2 < y.2 ∨ x.2 = y.2 ∧ firstName x.1 = firstName y.1))

instance : Trans Precedes Precedes Precedes where
  trans := by
    rintro x y z (hxy | ⟨hxy, hname⟩) (hyz | ⟨hyz, hname'⟩)
    · exact Or.inl (UInt16.lt_trans hxy hyz)
    · exact Or.inl (hyz ▸ hxy)
    · exact Or.inl (hxy ▸ hyz)
    · exact Or.inr ⟨hxy.trans hyz, hname.trans hname'⟩

/-- The table is in order. Neighbours are compared, and `Precedes` is transitive: comparing all
pairs would be a hundred thousand comparisons. -/
theorem names_ascend : names.Pairwise Precedes := by
  have hchain : names.IsChain Precedes := by decide +kernel
  exact List.isChain_iff_pairwise.1 hchain

/-- Entries with one code have one first name. -/
theorem firstName_eq_of_mem {a b : String} {code : Code} (ha : (a, code) ∈ names)
    (hb : (b, code) ∈ names) : firstName a = firstName b := by
  -- unlike `Precedes`, this relation does not depend on which of two entries comes first
  let Agree (x y : String × Code) : Prop := x.2 = y.2 → firstName x.1 = firstName y.1
  have hsymm : Std.Symm Agree := ⟨fun x y h heq => (h heq.symm).symm⟩
  have hpairwise : names.Pairwise Agree := by
    refine names_ascend.imp ?_
    rintro x y (hlt | ⟨-, hname⟩) heq
    · exact absurd heq (UInt16.ne_of_lt hlt)
    · exact hname
  exact hpairwise.forall_of_forall (fun x _ _ => rfl) ha hb rfl

theorem mem_names_of_codeOf? {name : String} {code : Code} (h : codeOf? name = some code) :
    (name, code) ∈ names := by
  obtain ⟨before, after, hnames, -⟩ := List.lookup_eq_some_iff.1 h
  rw [hnames]
  exact List.mem_append_right before List.mem_cons_self

/-- The first name has the same code. -/
theorem codeOf?_firstName (name : String) : codeOf? (firstName name) = codeOf? name := by
  unfold firstName
  split
  · decide +kernel
  · decide +kernel
  · rfl

/-- **Names have one code exactly if their first names are equal.** -/
theorem code_eq_iff {a b : String} {ca cb : Code} (ha : codeOf? a = some ca)
    (hb : codeOf? b = some cb) : ca = cb ↔ firstName a = firstName b := by
  constructor
  · rintro rfl
    exact firstName_eq_of_mem (mem_names_of_codeOf? ha) (mem_names_of_codeOf? hb)
  · intro hname
    rw [← codeOf?_firstName, hname, codeOf?_firstName, hb] at ha
    exact (Option.some.inj ha).symm

/-! ## Case -/

/-- The texts differ in nothing but the case of ASCII letters. -/
def SameLetters (a b : String) : Prop :=
  Text.asciiLower a.toList = Text.asciiLower b.toList

instance (a b : String) : Decidable (SameLetters a b) :=
  inferInstanceAs (Decidable (Text.asciiLower a.toList = Text.asciiLower b.toList))

/-- What is no letter has no case. -/
theorem eq_of_toLower_eq {c d : Char} (hc : c.isAlpha = false) (h : d.toLower = c.toLower) :
    d = c := by
  have hlower {k : Char} (hk : k.isAlpha = false) : k.toLower = k :=
    Char.toLower_eq_of_not_isUpper fun hupper => by simp [Char.isAlpha, hupper] at hk
  have hd : d.isAlpha = false := by
    rw [← Char.isAlpha_toLower_eq_isAlpha, h, Char.isAlpha_toLower_eq_isAlpha, hc]
  rw [← hlower hd, h, hlower hc]

/-- A class of characters with all letters in it does not see their case. -/
theorem of_toLower_eq {p : Char → Bool} (hp : ∀ c, c.isAlpha → p c) {c d : Char} (hc : p c)
    (h : d.toLower = c.toLower) : p d := by
  cases halpha : c.isAlpha with
  | false => rwa [eq_of_toLower_eq halpha h]
  | true =>
      refine hp d ?_
      rw [← Char.isAlpha_toLower_eq_isAlpha, h, Char.isAlpha_toLower_eq_isAlpha, halpha]

/-! ## Brackets and case -/

/-- Texts that agree in capital letters agree in small ones. -/
theorem asciiUpper_eq_iff {a b : List Char} :
    Text.asciiUpper a = Text.asciiUpper b ↔ Text.asciiLower a = Text.asciiLower b := by
  have hlower (s : List Char) : Text.asciiLower (Text.asciiUpper s) = Text.asciiLower s := by
    simp [Text.asciiLower, Text.asciiUpper]
  have hupper (s : List Char) : Text.asciiUpper (Text.asciiLower s) = Text.asciiUpper s := by
    simp [Text.asciiLower, Text.asciiUpper]
  constructor
  · intro h
    rw [← hlower a, h, hlower b]
  · intro h
    rw [← hupper a, h, hupper b]

namespace Namespace

/-- The name has no opening bracket before it and no closing bracket after it. -/
def Unbracketed (name : String) : Prop :=
  name.toList.head? ≠ some '<' ∧ name.toList.getLast? ≠ some '>'

instance (name : String) : Decidable (Unbracketed name) :=
  inferInstanceAs (Decidable (_ ∧ _))

theorem bareName_of_unbracketed {name : String} (h : Unbracketed name) :
    bareName name.toList = name.toList := by
  have hkeep {c : Char} {s : List Char} (hs : s.head? ≠ some c) :
      s.dropWhile (· = c) = s := by
    cases s with
    | nil => rfl
    | cons c' s => exact List.dropWhile_cons_of_neg (by simpa using hs)
  unfold bareName Text.dropEndWhile
  rw [hkeep h.1, hkeep (by rw [List.head?_reverse]; exact h.2), List.reverse_reverse]

/-- Names lead to one name of the kernel exactly if they are spelt alike up to brackets and case. -/
theorem kernelName_eq_iff {n : Namespace} {a b : String} :
    n.kernelName a = n.kernelName b ↔
      Text.asciiLower (bareName a.toList) = Text.asciiLower (bareName b.toList) := by
  unfold kernelName
  rw [String.ofList_inj, List.append_cancel_left_eq, asciiUpper_eq_iff]

/-- Making letters small leaves brackets where they are. -/
theorem asciiLower_bareName (name : List Char) :
    Text.asciiLower (bareName name) = bareName (Text.asciiLower name) := by
  have hbracket {bracket : Char} (h : bracket.isAlpha = false) (hlower : bracket.toLower = bracket)
      (s : List Char) : (s.map Char.toLower).dropWhile (· = bracket) =
        (s.dropWhile (· = bracket)).map Char.toLower := by
    rw [List.dropWhile_map]
    congr 2
    funext c
    simp only [Function.comp_apply, decide_eq_decide]
    refine ⟨fun hc => eq_of_toLower_eq h (hc.trans hlower.symm), ?_⟩
    rintro rfl
    exact hlower
  unfold bareName Text.dropEndWhile Text.asciiLower
  rw [hbracket (by decide) (by decide), ← List.map_reverse, hbracket (by decide) (by decide),
    List.map_reverse]

/-- The case of letters does not matter to what a name means. -/
theorem resolve?_congr {n : Namespace} {a b : String} (h : SameLetters a b) :
    n.resolve? a = n.resolve? b := by
  have hkernel : n.kernelName a = n.kernelName b := by
    rw [kernelName_eq_iff, asciiLower_bareName, asciiLower_bareName, h]
  rw [resolve?, hkernel, resolve?]

/-- **Names mean the same key exactly if they are spelt alike up to brackets and case, or are the
two names of one code.** -/
theorem resolve?_eq_iff {n : Namespace} {a b : String} {ca cb : Code}
    (ha : n.resolve? a = some ca) (hb : n.resolve? b = some cb) :
    ca = cb ↔ Text.asciiLower (bareName a.toList) = Text.asciiLower (bareName b.toList) ∨
      Synonymous (n.kernelName a) (n.kernelName b) := by
  rw [code_eq_iff ha hb, ← kernelName_eq_iff (n := n)]
  constructor
  · intro hname
    by_cases hkernel : n.kernelName a = n.kernelName b
    · exact Or.inl hkernel
    · exact Or.inr ⟨hkernel, hname⟩
  · rintro (hkernel | ⟨-, hname⟩)
    · rw [hkernel]
    · exact hname

end Namespace

end KeyChord.Key
