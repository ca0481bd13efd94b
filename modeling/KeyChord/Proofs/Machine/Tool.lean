import KeyChord.Machine.Basic

/-!
# Steps on a machine

What is done on a machine is a row of steps that may fail, each of which leaves the machine in some
state. Here such a row is run step by step; the step that starts a program appends one exchange to
the past of that program.

* `run_bind`, `run_map`, `run_tryCatch`, `run_adapt`: steps one after another, and steps that fail.
* `Tool.replyTo`, `Tool.called`: what comes of a call, and the program after it; `Tool.calledAll`
  after a row of calls.
-/

namespace KeyChord

/-! ## Steps that may fail -/

section

variable {ε ε' σ α β : Type}

/-- A step after another is only taken if the first one does not fail. -/
theorem run_bind (x : ExceptT ε (StateM σ) α) (f : α → ExceptT ε (StateM σ) β) (s : σ) :
    (x >>= f).run.run s =
      match x.run.run s with
      | (.ok a, s') => (f a).run.run s'
      | (.error e, s') => (.error e, s') := by
  simp only [ExceptT.run_bind, StateT.run_bind]
  rcases x.run.run s with ⟨_ | a, s'⟩ <;> rfl

theorem run_bind_of_ok {x : ExceptT ε (StateM σ) α} {f : α → ExceptT ε (StateM σ) β} {s s' : σ}
    {a : α} (h : x.run.run s = (.ok a, s')) : (x >>= f).run.run s = (f a).run.run s' := by
  rw [run_bind, h]

theorem run_bind_of_error {x : ExceptT ε (StateM σ) α} {f : α → ExceptT ε (StateM σ) β}
    {s s' : σ} {e : ε} (h : x.run.run s = (.error e, s')) :
    (x >>= f).run.run s = (.error e, s') := by
  rw [run_bind, h]

/-- A step with another result if it does not fail. -/
theorem run_map (f : α → β) (x : ExceptT ε (StateM σ) α) (s : σ) :
    (f <$> x).run.run s = ((x.run.run s).1.map f, (x.run.run s).2) := by
  rw [map_eq_pure_bind, run_bind]
  rcases x.run.run s with ⟨_ | a, s'⟩ <;> rfl

/-- A step that is tried, with another in its place where it fails. -/
theorem run_tryCatch (x : ExceptT ε (StateM σ) α) (handler : ε → ExceptT ε (StateM σ) α) (s : σ) :
    (tryCatch x handler).run.run s =
      match x.run.run s with
      | (.ok a, s') => (.ok a, s')
      | (.error e, s') => (handler e).run.run s' := by
  simp only [ExceptT.run_tryCatch, StateT.run_bind]
  rcases x.run.run s with ⟨_ | a, s'⟩ <;> rfl

/-- A step whose failure means something else outside. -/
theorem run_adapt (wrap : ε → ε') (x : ExceptT ε (StateM σ) α) (s : σ) :
    (ExceptT.adapt wrap x).run.run s = ((x.run.run s).1.mapError wrap, (x.run.run s).2) := rfl

end

/-! ## Calls -/

namespace Tool

/-- What comes of a call. -/
def replyTo (t : Tool) (args : Arguments) : Reply :=
  match unfit? t.environment args with
  | some fault => .notStarted fault
  | none => t.answer t.past args

theorem replyTo_of_fits {t : Tool} {args : Arguments} (h : unfit? t.environment args = none) :
    t.replyTo args = t.answer t.past args := by
  unfold replyTo
  rw [h]

/-- What ended was started, so it was the program that answered. -/
theorem answer_of_replyTo_eq_ended {t : Tool} {args : Arguments} {output complaint : String}
    {status : ExitStatus} (h : t.replyTo args = .ended output complaint status) :
    t.answer t.past args = .ended output complaint status := by
  unfold replyTo at h
  split at h
  · cases h
  · exact h

/-- The program after a call. -/
def called (t : Tool) (args : Arguments) : Tool :=
  { t with past := t.past ++ [(args, t.replyTo args)] }

/-- The program after some calls, one after another. -/
def calledAll (t : Tool) (calls : List Arguments) : Tool :=
  calls.foldl called t

theorem calledAll_append (t : Tool) (calls calls' : List Arguments) :
    t.calledAll (calls ++ calls') = (t.calledAll calls).calledAll calls' :=
  List.foldl_append

end Tool

end KeyChord
