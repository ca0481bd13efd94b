import KeyChord.Proofs.Dispatch.Decision
import KeyChord.Proofs.Dispatch.Run
import KeyChord.Proofs.Pattern.Viability

/-!
# The reset key always works

The reset expression is a lone wildcard, which rejects every buffer that goes on after its key. So
a reset key that ever got stuck in a buffer would be dead for good. It never does: between any two
operations the buffer holds no press of it, no repeat, and nothing that no binding waits for.

* `Dispatcher.Coherent`: the invariant.
* `Coherent.after`, `Coherent.afterAll`: every operation keeps it, and so does every run.
* `run_buffer_and_reset`: what holds after every run, and what the reset key then does.
-/

namespace KeyChord.Dispatcher

open Key Pattern

variable {α σ ε : Type}

/-- What holds of a dispatcher with this reset key between any two operations. -/
structure Coherent (rc : Code) (d : Dispatcher α) : Prop where
  reset_eq : ∃ t, d.reset = Expression.reset rc t
  not_repeated : ∀ e ∈ d.buffer, e.transition ≠ .repeated
  not_reset : Event.press rc ∉ d.buffer
  awaited : d.buffer ≠ [] → ∃ b ∈ d.bindings, (b.expression.process d.buffer).state = .pending

namespace Coherent

variable {rc : Code} {d : Dispatcher α}

theorem new (rc : Code) (t : Translator) : Coherent rc (new (α := α) (.reset rc t)) where
  reset_eq := ⟨t, rfl⟩
  not_repeated := by simp [Dispatcher.new]
  not_reset := by simp [Dispatcher.new]
  awaited := fun h => absurd rfl h

/-- A buffer that has been dropped is in order. -/
theorem clear (h : Coherent rc d) : Coherent rc d.clear where
  reset_eq := h.reset_eq
  not_repeated := by simp [Dispatcher.clear]
  not_reset := by simp [Dispatcher.clear]
  awaited := fun h => absurd rfl h

/-- A binding that comes late leaves the others waiting as they were. -/
theorem bind (h : Coherent rc d) (b : Binding α) : Coherent rc (d.bind b) where
  reset_eq := h.reset_eq
  not_repeated := h.not_repeated
  not_reset := h.not_reset
  awaited := fun hne => by
    obtain ⟨b', hb', hpending⟩ := h.awaited hne
    exact ⟨b', List.mem_append_left _ hb', hpending⟩

/-- The reset expression accepts with a press of the reset key and with nothing else. -/
theorem reset_accept_iff (h : Coherent rc d) (e : Event) :
    (d.reset.process (d.buffer ++ [e])).state = .accept ↔ e = .press rc := by
  obtain ⟨t, ht⟩ := h.reset_eq
  rw [ht]
  exact Expression.reset_accept_iff h.not_reset t e

/-- **A press of the reset key resets**, and nothing else does. -/
theorem decision_eq_reset_iff (h : Coherent rc d) (e : Event) :
    d.decision e = .reset ↔ e = .press rc := by
  constructor
  · intro hd
    have he : e.transition ≠ .repeated := by
      rw [Ne, ← d.decision_eq_ignore_iff, hd]
      simp
    have hjudged := judged_decision (d := d) he
    rw [hd] at hjudged
    cases hjudged with
    | reset haccept => exact (h.reset_accept_iff e).1 haccept
  · rintro rfl
    have haccept := (h.reset_accept_iff (.press rc)).2 rfl
    rw [decision, if_neg (by simp [Event.press]), judge, if_pos haccept]

/-- The buffer may grow by an event that a binding then waits on. -/
theorem concat (h : Coherent rc d) {e : Event} (he : e.transition ≠ .repeated) (hrc : e ≠ .press rc)
    {b : Binding α} (hb : b ∈ d.bindings)
    (hpending : (b.expression.process (d.buffer ++ [e])).state = .pending) :
    Coherent rc { d with buffer := d.buffer ++ [e] } where
  reset_eq := h.reset_eq
  not_repeated := by
    intro e' he'
    rcases List.mem_append.1 he' with he' | he'
    · exact h.not_repeated e' he'
    · rwa [List.mem_singleton.1 he']
  not_reset := by
    intro hmem
    rcases List.mem_append.1 hmem with hmem | hmem
    · exact h.not_reset hmem
    · exact hrc (List.mem_singleton.1 hmem).symm
  awaited := fun _ => ⟨b, hb, hpending⟩

/-- An event keeps the invariant: it is only ever added to a buffer that a binding waits on. -/
theorem next (h : Coherent rc d) (e : Event) : Coherent rc (d.next e) := by
  by_cases hrepeat : e.transition = .repeated
  · rw [next_of_ignore ((d.decision_eq_ignore_iff e).2 hrepeat)]
    exact h
  by_cases hretain : d.decision e = .retain
  · rw [next_of_retain hretain]
    have hjudged := judged_decision (d := d) hrepeat
    rw [hretain] at hjudged
    cases hjudged with
    | retain hreset _ hb hpending =>
        exact h.concat hrepeat (mt (h.reset_accept_iff e).2 hreset) hb hpending
  · rw [next_of_settled (mt (d.decision_eq_ignore_iff e).1 hrepeat) hretain]
    exact h.clear

theorem after (h : Coherent rc d) (op : Operation α) : Coherent rc (d.after op) := by
  cases op with
  | event e => exact h.next e
  | bind b => exact h.bind b
  | clear => exact h.clear

/-- **Every run keeps the invariant.** -/
theorem afterAll (h : Coherent rc d) (ops : List (Operation α)) : Coherent rc (d.afterAll ops) := by
  induction ops generalizing d with
  | nil => exact h
  | cons op ops ih => exact ih (h.after op)

end Coherent

/-- **The buffer stays in order and the reset key always works.** After every run of a new
dispatcher, whatever is bound and whatever the actions do, the buffer holds neither repeats nor
presses of the reset key, and a binding waits on it if it is not empty. So the outcome of an event
is `reset` exactly if it is a press of the reset key; it then leaves the world alone and an empty
buffer behind. -/
theorem run_buffer_and_reset (invoke : α → List String → StateM σ (Completion ε))
    (message : ε → String) (rc : Code) (t : Translator) (ops : List (Operation α)) (s : σ) :
    let d := (((new (Expression.reset rc t)).run invoke message ops).run s).1.2
    (∀ e ∈ d.buffer, e.transition ≠ .repeated ∧ e ≠ .press rc) ∧
    (d.buffer ≠ [] → ∃ b ∈ d.bindings, (b.expression.process d.buffer).state = .pending) ∧
    ∀ (e : Event) (s' : σ),
      (((d.handle invoke message e).run s').1.1 = .reset ↔ e = .press rc) ∧
      (e = .press rc →
        ((d.handle invoke message e).run s').2 = s' ∧
          ((d.handle invoke message e).run s').1.2.2.buffer = []) := by
  intro d
  have hd : d = (new (Expression.reset rc t)).afterAll ops :=
    ((new (Expression.reset rc t)).run_spec invoke message ops s).1
  have h : Coherent rc d := by
    rw [hd]
    exact (Coherent.new rc t).afterAll ops
  refine ⟨fun e he => ⟨h.not_repeated e he, ?_⟩, h.awaited, fun e s' => ⟨?_, fun he => ?_⟩⟩
  · rintro rfl
    exact h.not_reset he
  · rw [← h.decision_eq_reset_iff e]
    change (d.decision e).outcome = .reset ↔ _
    cases d.decision e <;> simp [Decision.outcome]
  · have hreset := (h.decision_eq_reset_iff e).2 he
    constructor
    · change ((d.perform invoke message (d.decision e)).run s').2 = s'
      rw [hreset]
      rfl
    · change d.bufferAfter e (d.decision e) = []
      rw [hreset]
      rfl

end KeyChord.Dispatcher
