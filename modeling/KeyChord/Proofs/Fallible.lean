import Mathlib.Data.List.Forall2

/-!
# Steps that may fail

A row of steps that may fail comes to a result exactly if all of them do, and else it fails the way
its first failing step does. Each statement below is an equivalence, so that what is reported can be
read off a program in both directions.

* `exists_eq_ok_iff`: a step comes to a result or reports something.
* `bind_eq_ok_iff`, `bind_eq_error_iff`: one step after another.
* `mapM_eq_ok_iff`, `exists_mapM_eq_ok_iff`, `mapM_eq_error_iff`: the same step on each item of a
  list.
* `foldlM_map_eq`: gathering what the steps give can wait until the last of them.
-/

namespace KeyChord.Fallible

variable {ε ε' α β γ : Type}

/-- There is a result exactly if nothing is reported. -/
theorem exists_eq_ok_iff {x : Except ε α} : (∃ a, x = .ok a) ↔ ∀ e, x ≠ .error e := by
  cases x <;> simp

theorem bind_eq_ok_iff {x : Except ε α} {f : α → Except ε β} {b : β} :
    x >>= f = .ok b ↔ ∃ a, x = .ok a ∧ f a = .ok b := by
  cases x with
  | error e => simp [bind, Except.bind]
  | ok a => simp [bind, Except.bind]

/-- The second step is only at fault where the first one is not. -/
theorem bind_eq_error_iff {x : Except ε α} {f : α → Except ε β} {e : ε} :
    x >>= f = .error e ↔ x = .error e ∨ ∃ a, x = .ok a ∧ f a = .error e := by
  cases x with
  | error e' => simp [bind, Except.bind]
  | ok a => simp [bind, Except.bind]

theorem map_map (f : α → β) (g : β → γ) (x : Except ε α) :
    (x.map f).map g = x.map fun a => g (f a) := by
  cases x <;> rfl

theorem map_eq_ok_iff {x : Except ε α} {f : α → β} {b : β} :
    x.map f = .ok b ↔ ∃ a, x = .ok a ∧ f a = b := by
  cases x <;> simp [Except.map]

theorem map_eq_error_iff {x : Except ε α} {f : α → β} {e : ε} :
    x.map f = .error e ↔ x = .error e := by
  cases x <;> simp [Except.map]

theorem mapError_eq_ok_iff {wrap : ε → ε'} {x : Except ε α} {a : α} :
    x.mapError wrap = .ok a ↔ x = .ok a := by
  cases x <;> simp [Except.mapError]

theorem mapError_eq_error_iff {wrap : ε → ε'} {x : Except ε α} {e' : ε'} :
    x.mapError wrap = .error e' ↔ ∃ e, x = .error e ∧ wrap e = e' := by
  cases x <;> simp [Except.mapError]

theorem toOption_map {x : Except ε α} {f : α → β} : (x.map f).toOption = x.toOption.map f := by
  cases x <;> rfl

theorem toOption_bind {x : Except ε α} {f : α → Except ε β} :
    (x >>= f).toOption = x.toOption.bind fun a => (f a).toOption := by
  cases x <;> rfl

theorem toOption_eq_some_iff {x : Except ε α} {a : α} : x.toOption = some a ↔ x = .ok a := by
  cases x <;> simp [Except.toOption]

/-- A step on each item succeeds exactly if it does on every one, and then in order. -/
theorem mapM_eq_ok_iff {f : α → Except ε β} {xs : List α} {ys : List β} :
    xs.mapM f = .ok ys ↔ List.Forall₂ (fun x y => f x = .ok y) xs ys := by
  induction xs generalizing ys with
  | nil =>
      rw [List.forall₂_nil_left_iff]
      constructor
      · intro h
        cases h
        rfl
      · rintro rfl
        rfl
  | cons x xs ih =>
      rw [List.mapM_cons, List.forall₂_cons_left_iff]
      simp only [bind_eq_ok_iff, ih]
      constructor
      · rintro ⟨y, hy, ys', hys, h⟩
        cases h
        exact ⟨y, ys', hy, hys, rfl⟩
      · rintro ⟨y, ys', hy, hys, rfl⟩
        exact ⟨y, hy, ys', hys, rfl⟩

/-- Each item has a partner in some list exactly if each of them has one. -/
theorem exists_forall₂_iff {R : α → β → Prop} {xs : List α} :
    (∃ ys, List.Forall₂ R xs ys) ↔ ∀ x ∈ xs, ∃ y, R x y := by
  induction xs with
  | nil => simp
  | cons x xs ih =>
      simp only [List.forall₂_cons_left_iff, List.forall_mem_cons, ← ih]
      constructor
      · rintro ⟨_, y, ys, hy, hys, rfl⟩
        exact ⟨⟨y, hy⟩, ys, hys⟩
      · rintro ⟨⟨y, hy⟩, ys, hys⟩
        exact ⟨y :: ys, y, ys, hy, hys, rfl⟩

/-- There is a result exactly if there is one for every item. -/
theorem exists_mapM_eq_ok_iff {f : α → Except ε β} {xs : List α} :
    (∃ ys, xs.mapM f = .ok ys) ↔ ∀ x ∈ xs, ∃ y, f x = .ok y := by
  simp only [mapM_eq_ok_iff, exists_forall₂_iff]

/-- It fails exactly if there is a first item that it fails on, and then as it does on that item. -/
theorem mapM_eq_error_iff {f : α → Except ε β} {xs : List α} {e : ε} :
    xs.mapM f = .error e ↔ ∃ before x after, xs = before ++ x :: after ∧
      (∀ y ∈ before, ∃ b, f y = .ok b) ∧ f x = .error e := by
  induction xs with
  | nil =>
      constructor
      · intro h
        cases h
      · rintro ⟨before, x, after, h, -⟩
        simp at h
  | cons x xs ih =>
      have hpure (b : β) (bs : List β) : (pure (b :: bs) : Except ε (List β)) ≠ .error e := nofun
      rw [List.mapM_cons]
      simp only [bind_eq_error_iff, ih, hpure, and_false, exists_false, or_false]
      constructor
      · rintro (hx | ⟨b, hb, before, y, after, rfl, hbefore, hy⟩)
        · exact ⟨[], x, xs, rfl, by simp, hx⟩
        · refine ⟨x :: before, y, after, rfl, ?_, hy⟩
          intro z hz
          rcases List.mem_cons.1 hz with rfl | hz
          · exact ⟨b, hb⟩
          · exact hbefore z hz
      · rintro ⟨before, y, after, h, hbefore, hy⟩
        rcases before with _ | ⟨z, before⟩
        · obtain ⟨rfl, rfl⟩ := List.cons.inj h
          exact Or.inl hy
        · obtain ⟨rfl, rfl⟩ := List.cons.inj h
          obtain ⟨b, hb⟩ := hbefore x List.mem_cons_self
          exact Or.inr ⟨b, hb, before, y, after, rfl,
            fun z hz => hbefore z (List.mem_cons_of_mem x hz), hy⟩

/-- If what is gathered on the way makes no step fail, all steps may be taken before it is. -/
theorem foldlM_map_eq {f : α → Except ε β} {g : γ → β → γ} (xs : List α) (c : γ) :
    xs.foldlM (fun c x => (f x).map (g c)) c = (xs.mapM f).map fun ys => ys.foldl g c := by
  induction xs generalizing c with
  | nil => rfl
  | cons x xs ih =>
      rw [List.foldlM_cons, List.mapM_cons]
      cases f x with
      | error e => rfl
      | ok y =>
          show xs.foldlM (fun c x => (f x).map (g c)) (g c y) = _
          rw [ih (g c y)]
          show _ = Except.map _ (xs.mapM f >>= fun ys => pure (y :: ys))
          cases xs.mapM f <;> rfl

end KeyChord.Fallible
