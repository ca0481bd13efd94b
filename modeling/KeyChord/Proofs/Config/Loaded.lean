import KeyChord.Config.Binding
import KeyChord.Proofs.Fallible

/-!
# Settings that have been loaded

Settings come from a text or from files. Either way the members that were read make a draft, and the
draft passes its check: this is all that what follows has to know of reading.

* `Settings.Loaded s`: the settings `s` come from a text or from files.
* `Settings.Loaded.exists_draft`: the draft behind them.
* `Draft.check_eq_ok_iff`: what its check says and what it takes over.
-/

namespace KeyChord.Config

open Key Fallible

/-- The settings are what a text or files say. -/
inductive Settings.Loaded (s : Settings) : Prop
  | inline {text : String} (h : Settings.ofText text = .ok s)
  | files {fs : FileSystem} {paths : List String} (h : Settings.load fs paths = .ok s)

/-- A draft passes its check exactly if its namespace is one and its special keys differ. Both keys
are taken over without the brackets around them. -/
theorem Draft.check_eq_ok_iff {draft : Draft} {s : Settings} :
    draft.check = .ok s ↔
      Namespace.ofText? draft.keyNamespace = some s.keyNamespace ∧
      stripBrackets draft.resetKey = s.resetKey ∧
      stripBrackets draft.wildcardKey = s.wildcardKey ∧
      draft.device = s.device ∧ draft.schemes = s.schemes := by
  obtain ⟨device, keyNamespace, resetKey, wildcardKey, schemes, hdiffer⟩ := s
  unfold Draft.check
  cases Namespace.ofText? draft.keyNamespace with
  | none => simp
  | some n =>
      simp only [Option.some.injEq]
      constructor
      · intro h
        split at h
        · cases h
          exact ⟨rfl, rfl, rfl, rfl, rfl⟩
        · cases h
      · rintro ⟨rfl, rfl, rfl, rfl, rfl⟩
        rw [dif_pos hdiffer]

theorem Settings.ofMembers_eq_ok_iff {origin : String} {members : Members Json} {s : Settings} :
    ofMembers origin members = .ok s ↔
      ∃ draft, members.foldlM Draft.take {} = .ok draft ∧ draft.check = .ok s := by
  unfold ofMembers
  cases members.foldlM Draft.take {} <;> simp

/-- **Behind loaded settings there is a draft that passes its check.** -/
theorem Settings.Loaded.exists_draft {s : Settings} (h : s.Loaded) :
    ∃ (members : Members Json) (draft : Draft),
      members.foldlM Draft.take {} = .ok draft ∧ draft.check = .ok s := by
  cases h with
  | inline h =>
      obtain ⟨members, -, hmembers⟩ := bind_eq_ok_iff.1 h
      exact ⟨members, ofMembers_eq_ok_iff.1 hmembers⟩
  | @files _ paths h =>
      unfold load at h
      split at h
      · cases h
      · obtain ⟨members, -, hmembers⟩ := bind_eq_ok_iff.1 h
        exact ⟨members, ofMembers_eq_ok_iff.1 hmembers⟩

theorem Settings.bindings_of_get?_eq_none {s : Settings} {scheme : String}
    (h : s.schemes.get? scheme = none) : s.bindings scheme = .error (.missingScheme scheme) := by
  unfold Settings.bindings
  rw [h]

theorem Settings.bindings_of_get?_eq_some {s : Settings} {scheme : String} {value : Json}
    (h : s.schemes.get? scheme = some value) :
    s.bindings scheme = (readScheme value).mapError (.badBinding scheme) := by
  unfold Settings.bindings
  rw [h]

/-- Reading the bindings of a scheme, nothing is at fault but the scheme. -/
theorem Settings.eq_of_bindings_eq_error {s : Settings} {scheme : String} {e : ConfigError}
    (h : s.bindings scheme = .error e) :
    e = .missingScheme scheme ∨ ∃ fault, e = .badBinding scheme fault := by
  cases hget : s.schemes.get? scheme with
  | none =>
      rw [bindings_of_get?_eq_none hget] at h
      cases h
      exact Or.inl rfl
  | some value =>
      rw [bindings_of_get?_eq_some hget] at h
      obtain ⟨fault, -, rfl⟩ := mapError_eq_error_iff.1 h
      exact Or.inr ⟨fault, rfl⟩

end KeyChord.Config
