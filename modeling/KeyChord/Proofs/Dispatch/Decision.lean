import KeyChord.Dispatch

/-!
# What a decision says

Every decision about a buffer is one of four, and each says what the reset expression and all the
bindings make of that buffer. Proofs about dispatchers take these four cases apart and do not look
at how the decision is found.
-/

namespace KeyChord

open Key Pattern

/-! ## The first verdict that accepts -/

theorem firstAccepted_eq_none {n : Nat} {verdicts : List Verdict}
    (h : firstAccepted n verdicts = none) : ∀ v ∈ verdicts, v.state ≠ .accept := by
  induction verdicts generalizing n with
  | nil => simp
  | cons v verdicts ih =>
      unfold firstAccepted at h
      split at h
      · cases h
      · rename_i hv
        intro w hw
        rcases List.mem_cons.1 hw with rfl | hw
        · exact hv
        · exact ih h w hw

theorem firstAccepted_eq_some {n i : Nat} {captures : List String} {verdicts : List Verdict}
    (h : firstAccepted n verdicts = some (i, captures)) :
    ∃ k v, i = n + k ∧ verdicts[k]? = some v ∧ v.state = .accept ∧ v.captures = captures ∧
      ∀ j < k, ∀ w, verdicts[j]? = some w → w.state ≠ .accept := by
  induction verdicts generalizing n with
  | nil => cases h
  | cons v verdicts ih =>
      unfold firstAccepted at h
      split at h
      · rename_i hv
        cases h
        exact ⟨0, v, rfl, rfl, hv, rfl, fun j hj => absurd hj (Nat.not_lt_zero j)⟩
      · rename_i hv
        obtain ⟨k, w, rfl, hw, haccept, hcaptures, hfirst⟩ := ih h
        refine ⟨k + 1, w, by omega, hw, haccept, hcaptures, ?_⟩
        intro j hj u hu
        cases j with
        | zero =>
            cases hu
            exact hv
        | succ j => exact hfirst j (by omega) u hu

/-! ## The four decisions -/

theorem Decision.outcome_eq_ignored_iff (v : Decision) : v.outcome = .ignored ↔ v = .ignore := by
  cases v <;> simp [Decision.outcome]

namespace Dispatcher

variable {α : Type}

/-- The decisions that a buffer allows. -/
inductive Judged (d : Dispatcher α) (buffer : List Event) : Decision → Prop
  /-- The reset key ends the buffer. -/
  | reset (h : (d.reset.process buffer).state = .accept) : Judged d buffer .reset
  /-- No binding before this one accepts, and this one does. -/
  | fire {i : Nat} {b : Binding α} (hreset : (d.reset.process buffer).state ≠ .accept)
      (hb : d.bindings[i]? = some b) (haccept : (b.expression.process buffer).state = .accept)
      (hfirst : ∀ j < i, ∀ b', d.bindings[j]? = some b' →
        (b'.expression.process buffer).state ≠ .accept) :
      Judged d buffer (.fire i (b.expression.process buffer).captures)
  /-- No binding accepts, but one may still. -/
  | retain {b : Binding α} (hreset : (d.reset.process buffer).state ≠ .accept)
      (hnone : ∀ b ∈ d.bindings, (b.expression.process buffer).state ≠ .accept)
      (hb : b ∈ d.bindings) (hpending : (b.expression.process buffer).state = .pending) :
      Judged d buffer .retain
  /-- Every binding rejects. -/
  | flush (hreset : (d.reset.process buffer).state ≠ .accept)
      (hall : ∀ b ∈ d.bindings, (b.expression.process buffer).state = .reject) :
      Judged d buffer .flush

/-- **A decision is one of the four**, for the reason that goes with it. -/
theorem judged_judge (d : Dispatcher α) (buffer : List Event) :
    Judged d buffer (d.judge buffer) := by
  unfold judge
  split
  · rename_i hreset
    exact .reset hreset
  rename_i hreset
  cases hfirst : firstAccepted 0 (d.verdicts buffer) with
  | some found =>
      obtain ⟨i, captures⟩ := found
      obtain ⟨k, v, rfl, hv, haccept, rfl, hbefore⟩ := firstAccepted_eq_some hfirst
      rw [verdicts, List.getElem?_map, Option.map_eq_some_iff] at hv
      obtain ⟨b, hb, rfl⟩ := hv
      rw [Nat.zero_add]
      refine .fire hreset hb haccept fun j hj b' hb' => hbefore j hj _ ?_
      rw [verdicts, List.getElem?_map, hb']
      rfl
  | none =>
      have hnone := firstAccepted_eq_none hfirst
      rw [verdicts, List.forall_mem_map] at hnone
      simp only
      split
      · rename_i hany
        rw [verdicts, List.any_map, List.any_eq_true] at hany
        obtain ⟨b, hb, hpending⟩ := hany
        exact .retain hreset hnone hb (of_decide_eq_true hpending)
      · rename_i hany
        refine .flush hreset fun b hb => ?_
        rw [verdicts, List.any_map, List.any_eq_true, not_exists] at hany
        have hnot := hany b
        cases hstate : (b.expression.process buffer).state with
        | accept => exact absurd hstate (hnone b hb)
        | reject => rfl
        | pending => exact absurd ⟨hb, decide_eq_true hstate⟩ hnot

/-- What is no repeat is decided about, together with what is in the buffer. -/
theorem judged_decision {d : Dispatcher α} {e : Event} (he : e.transition ≠ .repeated) :
    Judged d (d.buffer ++ [e]) (d.decision e) := by
  rw [decision, if_neg he]
  exact d.judged_judge (d.buffer ++ [e])

/-- Repeats are ignored, and nothing else is. -/
theorem decision_eq_ignore_iff (d : Dispatcher α) (e : Event) :
    d.decision e = .ignore ↔ e.transition = .repeated := by
  constructor
  · intro hignore
    by_cases he : e.transition = .repeated
    · exact he
    · have hjudged := judged_decision (d := d) he
      rw [hignore] at hjudged
      cases hjudged
  · intro he
    rw [decision, if_pos he]

/-! ## The buffer afterwards -/

theorem next_of_ignore {d : Dispatcher α} {e : Event} (h : d.decision e = .ignore) :
    d.next e = d := by
  rw [next, h]
  rfl

theorem next_of_retain {d : Dispatcher α} {e : Event} (h : d.decision e = .retain) :
    d.next e = { d with buffer := d.buffer ++ [e] } := by
  rw [next, h]
  rfl

/-- Any other decision uses the buffer up. -/
theorem next_of_settled {d : Dispatcher α} {e : Event} (hignore : d.decision e ≠ .ignore)
    (hretain : d.decision e ≠ .retain) : d.next e = d.clear := by
  unfold next
  cases hv : d.decision e with
  | ignore => exact absurd hv hignore
  | retain => exact absurd hv hretain
  | reset => rfl
  | fire i captures => rfl
  | flush => rfl

end Dispatcher

end KeyChord
