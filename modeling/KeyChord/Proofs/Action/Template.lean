import KeyChord.Action.Template
import KeyChord.Proofs.Fallible

/-!
# Filling templates

Whether a template can be filled is a question of numbers: of its slots, and of how many captures
there are. What the captures are makes no difference, and nor does it to the error.

* `Template.slots`: the slots of a template, in order.
* `Template.shortage? n`: what is wrong with a template if there are `n` captures.
* `Template.fill_eq_error_iff`: **filling fails with the shortage, and only if there is one.**
* `Template.exists_fill_iff`, `Template.fill_eq_ok_iff`: when it succeeds, and with what.
-/

namespace KeyChord.Action

open Fallible

/-- The index of a slot. -/
def Piece.slot? : Piece → Option Nat
  | .plain _ => none
  | .slot index => some index

namespace Template

/-- The indices of the slots, in order. -/
def slots (t : Template) : List Nat :=
  t.pieces.filterMap Piece.slot?

/-- What is wrong with a template if there are so many captures: the first slot that asks for one
more. -/
def shortage? (t : Template) (n : Nat) : Option TemplateError :=
  (t.slots.find? fun index => n ≤ index).map fun index => ⟨.missingCapture index n, t.source⟩

/-- There is a shortage exactly if some slot has an index that no capture has. -/
theorem exists_shortage_iff {t : Template} {n : Nat} :
    (∃ e, t.shortage? n = some e) ↔ ∃ index ∈ t.slots, n ≤ index := by
  rw [← Option.isSome_iff_exists, shortage?, Option.isSome_map, List.find?_isSome]
  simp only [decide_eq_true_eq]

/-- The shortage is that of the first slot with an index that no capture has. -/
theorem shortage?_eq_some_iff {t : Template} {n : Nat} {e : TemplateError} :
    t.shortage? n = some e ↔ ∃ before index after, t.slots = before ++ index :: after ∧
      (∀ i ∈ before, i < n) ∧ n ≤ index ∧ e = ⟨.missingCapture index n, t.source⟩ := by
  rw [shortage?, Option.map_eq_some_iff]
  simp only [List.find?_eq_some_iff_append, decide_eq_true_eq, Bool.not_eq_true',
    decide_eq_false_iff_not, Nat.not_le]
  constructor
  · rintro ⟨index, ⟨hindex, before, after, hslots, hbefore⟩, rfl⟩
    exact ⟨before, index, after, hslots, hbefore, hindex, rfl⟩
  · rintro ⟨before, index, after, hslots, hbefore, hindex, rfl⟩
    exact ⟨index, ⟨hindex, before, after, hslots, hbefore⟩, rfl⟩

theorem fillPiece_plain (captures : List String) (c : Char) :
    fillPiece captures (.plain c) = .ok c.toString := rfl

theorem fillPiece_slot_of_lt {captures : List String} {index : Nat} (h : index < captures.length) :
    fillPiece captures (.slot index) = .ok captures[index] := by
  unfold fillPiece
  simp only [List.getElem?_eq_getElem h]

theorem fillPiece_slot_of_le {captures : List String} {index : Nat} (h : captures.length ≤ index) :
    fillPiece captures (.slot index) = .error (.missingCapture index captures.length) := by
  unfold fillPiece
  simp only [List.getElem?_eq_none h]

theorem fillPiece_slot_eq_ok_iff {captures : List String} {index : Nat} {text : String} :
    fillPiece captures (.slot index) = .ok text ↔ captures[index]? = some text := by
  by_cases hindex : index < captures.length
  · rw [fillPiece_slot_of_lt hindex, List.getElem?_eq_getElem hindex, Except.ok.injEq,
      Option.some.injEq]
  · rw [fillPiece_slot_of_le (by omega), List.getElem?_eq_none (by omega)]
    simp

/-- The pieces can be filled up to the first slot without a capture. -/
theorem mapM_fillPiece_of_find?_eq_some {captures : List String} {pieces : List Piece} {index : Nat}
    (h : (pieces.filterMap Piece.slot?).find? (fun index => captures.length ≤ index) = some index) :
    pieces.mapM (fillPiece captures) = .error (.missingCapture index captures.length) := by
  induction pieces with
  | nil => simp at h
  | cons piece pieces ih =>
      rw [List.mapM_cons]
      cases piece with
      | plain c =>
          rw [fillPiece_plain, ih h]
          rfl
      | slot i =>
          have hslots : (Piece.slot i :: pieces).filterMap Piece.slot? =
              i :: pieces.filterMap Piece.slot? := rfl
          rw [hslots, List.find?_cons] at h
          by_cases hi : captures.length ≤ i
          · simp only [hi, decide_true, Option.some.injEq] at h
            rw [← h, fillPiece_slot_of_le hi]
            rfl
          · simp only [hi, decide_false] at h
            rw [fillPiece_slot_of_lt (by omega), ih h]
            rfl

/-- Where every slot has a capture all pieces can be filled. -/
theorem exists_mapM_fillPiece {captures : List String} {pieces : List Piece}
    (h : ∀ index ∈ pieces.filterMap Piece.slot?, index < captures.length) :
    ∃ texts, pieces.mapM (fillPiece captures) = .ok texts := by
  apply exists_mapM_eq_ok_iff.2
  intro piece hpiece
  cases piece with
  | plain c => exact ⟨_, fillPiece_plain captures c⟩
  | slot index =>
      have hindex : index < captures.length :=
        h index (List.mem_filterMap.2 ⟨.slot index, hpiece, rfl⟩)
      exact ⟨_, fillPiece_slot_of_lt hindex⟩

/-- **Filling fails with the shortage, and only if there is one**: the number of captures decides,
not what they are. -/
theorem fill_eq_error_iff {t : Template} {captures : List String} {e : TemplateError} :
    t.fill captures = .error e ↔ t.shortage? captures.length = some e := by
  unfold fill shortage?
  cases hfind : t.slots.find? fun index => captures.length ≤ index with
  | none =>
      have hall : ∀ index ∈ t.slots, index < captures.length := by
        intro index hindex
        have hnot := List.find?_eq_none.1 hfind index hindex
        simp only [decide_eq_true_eq] at hnot
        omega
      obtain ⟨texts, htexts⟩ := exists_mapM_fillPiece hall
      rw [htexts]
      simp
  | some index =>
      rw [mapM_fillPiece_of_find?_eq_some hfind]
      simp

/-- A template can be filled exactly if each slot has a capture. -/
theorem exists_fill_iff {t : Template} {captures : List String} :
    (∃ text, t.fill captures = .ok text) ↔ ∀ index ∈ t.slots, index < captures.length := by
  have herror : (∃ e, t.fill captures = .error e) ↔
      ∃ index ∈ t.slots, captures.length ≤ index := by
    simp only [fill_eq_error_iff, exists_shortage_iff]
  cases hfill : t.fill captures with
  | ok text =>
      rw [hfill] at herror
      simpa using herror
  | error e =>
      rw [hfill] at herror
      simpa using herror

/-- A template is filled piece by piece. -/
theorem fill_eq_ok_iff {t : Template} {captures : List String} {text : String} :
    t.fill captures = .ok text ↔ ∃ texts, String.join texts = text ∧
      List.Forall₂ (fun piece text => fillPiece captures piece = .ok text) t.pieces texts := by
  simp only [← mapM_eq_ok_iff]
  unfold fill
  cases t.pieces.mapM (fillPiece captures) <;> simp

end Template

end KeyChord.Action
