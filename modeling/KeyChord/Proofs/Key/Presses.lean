import KeyChord.Key.Event

/-!
# The presses among events

Patterns are about presses. Releases and repeats between them are noise, and the only thing about
noise that an expression ever sees is whether a buffer ends in it.

* `presses events`: the codes of the presses among `events`, in order.
* `EndsInPress events`: the last event is a press.
-/

namespace KeyChord.Key

namespace Event

@[simp] theorem isPress_press (c : Code) : (press c).isPress = true := rfl

@[simp] theorem code_press (c : Code) : (press c).code = c := rfl

@[simp] theorem press_inj {c k : Code} : press c = press k ↔ c = k := by
  simp [press]

/-- An event is a press of some key or no press at all. -/
theorem eq_press_or_not (e : Event) : (∃ c, e = press c) ∨ e.isPress = false := by
  obtain ⟨c, t⟩ := e
  cases t with
  | press => exact Or.inl ⟨c, rfl⟩
  | release => exact Or.inr rfl
  | repeated => exact Or.inr rfl

end Event

/-- The codes of the presses among events, in order. -/
def presses (events : List Event) : List Code :=
  (events.filter Event.isPress).map Event.code

@[simp] theorem presses_nil : presses [] = [] := rfl

@[simp] theorem presses_press_cons (c : Code) (events : List Event) :
    presses (.press c :: events) = c :: presses events := rfl

theorem presses_cons_of_not_press {e : Event} (h : e.isPress = false) (events : List Event) :
    presses (e :: events) = presses events := by
  simp [presses, h]

theorem mem_presses {c : Code} {events : List Event} : c ∈ presses events ↔ .press c ∈ events := by
  constructor
  · intro hc
    obtain ⟨e, he, rfl⟩ := List.mem_map.1 hc
    obtain ⟨hmem, hpress⟩ := List.mem_filter.1 he
    rcases e.eq_press_or_not with ⟨c, rfl⟩ | hnoise
    · exact hmem
    · rw [hnoise] at hpress
      cases hpress
  · intro hmem
    exact List.mem_map.2 ⟨.press c, List.mem_filter.2 ⟨hmem, rfl⟩, rfl⟩

/-- The last event is a press. -/
def EndsInPress (events : List Event) : Prop :=
  ∃ c, events.getLast? = some (.press c)

theorem not_endsInPress_nil : ¬ EndsInPress [] := by
  rintro ⟨c, h⟩
  cases h

theorem endsInPress_press_cons (c : Code) (events : List Event) :
    EndsInPress (.press c :: events) ↔ events = [] ∨ EndsInPress events := by
  rcases events with _ | ⟨e, events⟩
  · exact ⟨fun _ => Or.inl rfl, fun _ => ⟨c, rfl⟩⟩
  · simp [EndsInPress, List.getLast?_cons_cons]

/-- Noise in front does not matter, and noise alone is no press. -/
theorem endsInPress_noise_cons {e : Event} (h : e.isPress = false) (events : List Event) :
    EndsInPress (e :: events) ↔ EndsInPress events := by
  rcases events with _ | ⟨e', events⟩
  · refine ⟨?_, fun hnil => absurd hnil not_endsInPress_nil⟩
    rintro ⟨c, hc⟩
    cases hc
    cases h
  · simp [EndsInPress, List.getLast?_cons_cons]

/-- Where the last event is a press there is one. -/
theorem EndsInPress.presses_ne_nil {events : List Event} (h : EndsInPress events) :
    presses events ≠ [] := by
  obtain ⟨c, hc⟩ := h
  have hmem : Event.press c ∈ events := List.mem_of_getLast? hc
  exact List.ne_nil_of_mem (mem_presses.2 hmem)

end KeyChord.Key
