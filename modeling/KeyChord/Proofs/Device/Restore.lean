import KeyChord.Proofs.Device.Flags
import KeyChord.Proofs.Fallible
import Mathlib.Data.List.Induction

/-!
# A toggle restores what it found

A toggle remembers the flag of its device. Whatever is done with it and with the toggles of other
devices afterwards, in whatever order and with whatever failures, what it reads is what it set last,
what it restores is what it found, and it touches no other device.

* `Use`: what is done with toggles; `Use.step` and `runUses` do it and keep the history.
* `run_use`, `flags_run`: the call of a use, and the flags after it.
* `flag_runUses`: the flag of a device after some uses is the one that was set last.
* `Toggle.uses_keep_flags`: **what a toggle reads, what it restores and what it leaves alone.**
-/

namespace KeyChord.Device

/-! ## Uses of toggles -/

/-- What is done with toggles. -/
inductive Use where
  /-- Make a toggle. -/
  | make (xid : UInt32)
  /-- Ask for the state of a toggle's device. -/
  | ask (toggle : Toggle)
  /-- Enable or disable a toggle's device. -/
  | switch (toggle : Toggle) (enabled : Bool)
  /-- Put a toggle's device back into the state that was found. -/
  | restore (toggle : Toggle)
  deriving DecidableEq, Repr

/-- What comes of a use: the state that was read, if it reads one. -/
abbrev UseResult := Except DeviceError (Option Bool)

namespace Use

/-- The device that is used. -/
def xid : Use → UInt32
  | make xid => xid
  | ask toggle => toggle.xid
  | switch toggle _ => toggle.xid
  | restore toggle => toggle.xid

/-- The toggle that is used. One that is being made is not there yet. -/
def toggle? : Use → Option Toggle
  | make _ => none
  | ask toggle => some toggle
  | switch toggle _ => some toggle
  | restore toggle => some toggle

/-- The flag that a use sets, if it sets one. -/
def sets? : Use → Option Bool
  | make _ => none
  | ask _ => none
  | switch _ enabled => some enabled
  | restore toggle => some toggle.initial

/-- Does what the use is. -/
def run : Use → XInput (Option Bool)
  | make xid => (some ·.initial) <$> Toggle.ofXid xid
  | ask toggle => some <$> toggle.state
  | switch toggle enabled => (fun _ => none) <$> toggle.setState enabled
  | restore toggle => (fun _ => none) <$> toggle.restore

/-- One more use, whatever came of those before. -/
def step (before : List (Use × UseResult) × Tool) (u : Use) : List (Use × UseResult) × Tool :=
  let (result, t) := u.run.run.run before.2
  (before.1 ++ [(u, result)], t)

end Use

/-- Uses one after another, whatever comes of each: the history and the program after it. -/
def runUses (uses : List Use) (t : Tool) : List (Use × UseResult) × Tool :=
  uses.foldl Use.step ([], t)

/-- The flag that an entry of the history has set for a toggle's device, by that toggle. -/
def Toggle.hasSet? (toggle : Toggle) (entry : Use × UseResult) : Option Bool :=
  match entry with
  | (u, .ok _) => if u.toggle? = some toggle then u.sets? else none
  | (_, .error _) => none

/-- The flag that a toggle was the last to set. -/
def Toggle.lastSet? (toggle : Toggle) (history : List (Use × UseResult)) : Option Bool :=
  (history.filterMap toggle.hasSet?).getLast?

/-! ## One use -/

variable {flags : Flags} {t t' : Tool}

/-- The call that a use makes. -/
def Use.call : Use → Arguments
  | make xid => propertiesCall xid
  | ask toggle => propertiesCall toggle.xid
  | switch toggle enabled => Toggle.switchArguments toggle.xid enabled
  | restore toggle => Toggle.switchArguments toggle.xid toggle.initial

/-- What a use makes of the reply to its call. -/
def Use.result (u : Use) (reply : Reply) : UseResult :=
  match u.sets? with
  | none => (repliesEnabled u.xid reply).map some
  | some _ => (printed u.call reply).map fun _ => none

/-- **A use is one call.** -/
theorem run_use (u : Use) (t : Tool) :
    u.run.run.run t = (u.result (t.replyTo u.call), t.called u.call) := by
  cases u with
  | make xid =>
      unfold Use.run
      rw [run_map, run_ofXid, Fallible.map_map]
      rfl
  | ask toggle =>
      unfold Use.run Toggle.state
      rw [run_map, run_readEnabled]
      rfl
  | switch toggle enabled =>
      unfold Use.run
      rw [run_map, run_setState, Fallible.map_map]
      rfl
  | restore toggle =>
      unfold Use.run Toggle.restore
      rw [run_map, run_setState, Fallible.map_map]
      rfl

/-- What the call of a use asks for. -/
theorem ofArguments?_call (u : Use) : Request.ofArguments? u.call =
    some (match u.sets? with
      | none => .list u.xid
      | some enabled => .set u.xid enabled) := by
  cases u with
  | make xid => exact ofArguments?_propertiesCall xid
  | ask toggle => exact ofArguments?_propertiesCall toggle.xid
  | switch toggle enabled => exact ofArguments?_switchArguments toggle.xid enabled
  | restore toggle => exact ofArguments?_switchArguments toggle.xid toggle.initial

/-- **The flags after a use.** Only a use that sets a flag and does not fail changes one. -/
theorem flags_run (flags : Flags) (u : Use) (t : Tool) :
    flags.afterAll (u.run.run.run t).2.past =
      match u.sets?, (u.run.run.run t).1 with
      | some enabled, .ok _ => Function.update (flags.afterAll t.past) u.xid enabled
      | _, _ => flags.afterAll t.past := by
  have hcall := ofArguments?_call u
  rw [run_use]
  dsimp only
  rw [Flags.afterAll_called]
  unfold Use.result
  cases hsets : u.sets? with
  | none =>
      rw [hsets] at hcall
      exact Flags.after_of_list hcall _
  | some enabled =>
      rw [hsets] at hcall
      dsimp only
      cases hprinted : printed u.call (t.replyTo u.call) with
      | ok output =>
          obtain ⟨complaint, hreply⟩ := printed_eq_ok_iff.1 hprinted
          rw [hreply]
          exact Flags.after_of_set hcall output complaint
      | error e =>
          refine Flags.after_of_failed fun output complaint hreply => ?_
          rw [printed_eq_ok_iff.2 ⟨complaint, hreply⟩] at hprinted
          cases hprinted

/-- What fails changes no flag. -/
theorem flags_run_of_error {u : Use} {e : DeviceError} (h : u.run.run.run t = (.error e, t')) :
    flags.afterAll t'.past = flags.afterAll t.past := by
  have hflags := flags_run flags u t
  rw [h] at hflags
  rw [hflags]
  cases u.sets? <;> rfl

/-- A use leaves the other devices alone. -/
theorem flags_run_of_ne (flags : Flags) (u : Use) (t : Tool) {other : UInt32} (h : other ≠ u.xid) :
    flags.afterAll (u.run.run.run t).2.past other = flags.afterAll t.past other := by
  rw [flags_run]
  split
  · exact Function.update_of_ne h _ _
  · rfl

theorem Use.xid_of_toggle? {u : Use} {toggle : Toggle} (h : u.toggle? = some toggle) :
    u.xid = toggle.xid := by
  cases u <;> cases h <;> rfl

/-- What sets a flag is done with a toggle. -/
theorem Use.exists_toggle?_of_sets? {u : Use} {enabled : Bool} (h : u.sets? = some enabled) :
    ∃ toggle, u.toggle? = some toggle := by
  cases u <;> cases h <;> exact ⟨_, rfl⟩

/-- **The flag of a toggle's device after a use** that is not one of another toggle of that device:
the flag that the toggle has set by it, or else the flag before. -/
theorem flag_run (flags : Flags) (toggle : Toggle) {u : Use}
    (hown : ∀ other ∈ u.toggle?, other.xid = toggle.xid → other = toggle) (t : Tool) :
    flags.afterAll (u.run.run.run t).2.past toggle.xid =
      (toggle.hasSet? (u, (u.run.run.run t).1)).getD (flags.afterAll t.past toggle.xid) := by
  rw [flags_run]
  unfold Toggle.hasSet?
  cases hresult : (u.run.run.run t).1 with
  | error e => cases u.sets? <;> rfl
  | ok state =>
      cases hsets : u.sets? with
      | none => simp [hsets]
      | some enabled =>
          obtain ⟨other, hother⟩ := Use.exists_toggle?_of_sets? hsets
          have hxid := Use.xid_of_toggle? hother
          by_cases hsame : other.xid = toggle.xid
          · obtain rfl := hown other hother hsame
            simp [hother, hxid, hsets]
          · have hne : other ≠ toggle := fun heq => hsame (congrArg Toggle.xid heq)
            simp [hother, hxid, hne, Function.update_of_ne (Ne.symm hsame)]

/-- What the display server does not fail at succeeds. -/
theorem Serves.run_ok (h : Serves t flags) {u : Use} {output complaint : String}
    (hreply : t.replyTo u.call = .ended output complaint (.exited 0)) :
    ∃ result, (u.run.run.run t).1 = .ok result := by
  have hcall := ofArguments?_call u
  rw [run_use, hreply]
  unfold Use.result
  cases hsets : u.sets? with
  | none =>
      rw [hsets] at hcall
      have hshows := h _ _ _ _ _ hcall (Tool.answer_of_replyTo_eq_ended hreply)
      have hstate : repliesEnabled u.xid (.ended output complaint (.exited 0)) =
          .ok (flags.afterAll t.past u.xid) :=
        repliesEnabled_eq_ok_iff.2 ⟨output, complaint, rfl, enabled?_of_showsFlag hshows⟩
      dsimp only
      rw [hstate]
      exact ⟨_, rfl⟩
  | some enabled => exact ⟨none, rfl⟩

/-! ## Uses one after another -/

theorem runUses_concat (uses : List Use) (u : Use) (t : Tool) :
    runUses (uses ++ [u]) t =
      ((runUses uses t).1 ++ [(u, (u.run.run.run (runUses uses t).2).1)],
        (u.run.run.run (runUses uses t).2).2) :=
  List.foldl_append

/-- The program stays what it is. -/
theorem Serves.runUses (h : Serves t flags) (uses : List Use) :
    Serves (runUses uses t).2 flags := by
  induction uses using List.reverseRecOn with
  | nil => exact h
  | append_singleton uses u ih =>
      rw [runUses_concat, run_use]
      exact ih.called u.call

theorem Toggle.lastSet?_concat (toggle : Toggle) (history : List (Use × UseResult))
    (entry : Use × UseResult) : toggle.lastSet? (history ++ [entry]) =
      (toggle.hasSet? entry).or (toggle.lastSet? history) := by
  unfold Toggle.lastSet?
  rw [List.filterMap_append, List.getLast?_append]
  congr 1
  cases hset : toggle.hasSet? entry <;> simp [hset]

/-- **The flag of a toggle's device is the one that the toggle was the last to set**, or else the
one before all uses, as long as no other toggle of the device is used. -/
theorem flag_runUses (flags : Flags) (toggle : Toggle) {uses : List Use}
    (hown : ∀ u ∈ uses, ∀ other ∈ u.toggle?, other.xid = toggle.xid → other = toggle) (t : Tool) :
    flags.afterAll (runUses uses t).2.past toggle.xid =
      (toggle.lastSet? (runUses uses t).1).getD (flags.afterAll t.past toggle.xid) := by
  induction uses using List.reverseRecOn with
  | nil => rfl
  | append_singleton uses u ih =>
      have hbefore := ih fun v hv => hown v (List.mem_append_left [u] hv)
      have hlast := hown u (List.mem_append_right uses List.mem_cons_self)
      rw [runUses_concat, flag_run flags toggle hlast, hbefore, Toggle.lastSet?_concat,
        Option.getD_or]

/-! ## A toggle and the uses after it is made -/

/-- A toggle remembers the flag that is found when it is made, and that is all that is done then. -/
theorem Serves.found (h : Serves t flags) {xid : UInt32} {toggle : Toggle}
    (hmade : (Toggle.ofXid xid).run.run t = (.ok toggle, t')) :
    toggle = ⟨xid, flags.afterAll t.past xid⟩ ∧ Serves t' flags ∧
      flags.afterAll t'.past = flags.afterAll t.past := by
  rw [run_ofXid] at hmade
  obtain ⟨hresult, rfl⟩ := Prod.mk.inj hmade
  obtain ⟨state, hstate, rfl⟩ := Fallible.map_eq_ok_iff.1 hresult
  refine ⟨by rw [h.eq_of_repliesEnabled hstate], h.called _, ?_⟩
  rw [Flags.afterAll_called, Flags.after_of_list (ofArguments?_propertiesCall xid)]

/-- **A toggle restores what it found and touches no other device.** After any uses of it and of
toggles of other devices, whatever came of each: the state that is read is the one that it was the
last to set, or the one that was found; when it restores, the flag of its device is what it was when
the toggle was made; what fails changes no flag; no use of the toggle changes the flag of another
device; and a use does not fail unless the display server does. -/
theorem Toggle.uses_keep_flags (hserves : Serves t flags) {xid : UInt32} {toggle : Toggle}
    {made : Tool} (hmade : (Toggle.ofXid xid).run.run t = (.ok toggle, made)) {uses : List Use}
    (hown : ∀ u ∈ uses, ∀ other ∈ u.toggle?, other.xid = xid → other = toggle) :
    let found := flags.afterAll t.past xid
    let history := (runUses uses made).1
    let now := (runUses uses made).2
    (∀ state later, toggle.state.run.run now = (.ok state, later) →
        state = (toggle.lastSet? history).getD found) ∧
      (∀ later, toggle.restore.run.run now = (.ok (), later) →
        flags.afterAll later.past xid = found) ∧
      (∀ (u : Use) e later, u.run.run.run now = (.error e, later) →
        flags.afterAll later.past = flags.afterAll now.past) ∧
      (∀ (u : Use) result later, u.toggle? = some toggle → u.run.run.run now = (result, later) →
        ∀ other, other ≠ xid →
          flags.afterAll later.past other = flags.afterAll now.past other) ∧
      ∀ (u : Use) output complaint, now.replyTo u.call = .ended output complaint (.exited 0) →
        ∃ result, (u.run.run.run now).1 = .ok result := by
  intro found history now
  obtain ⟨rfl, hserves', hflags⟩ := hserves.found hmade
  refine ⟨fun state later hstate => ?_, fun later hrestore => ?_,
    fun u e later herror => flags_run_of_error herror,
    fun u result later hu hrun other hother => ?_,
    fun u output complaint hreply => (hserves'.runUses uses).run_ok hreply⟩
  · have hnow := flag_runUses flags ⟨xid, found⟩ hown made
    rw [Toggle.state, run_readEnabled] at hstate
    have hread := (hserves'.runUses uses).eq_of_repliesEnabled (Prod.mk.inj hstate).1
    rw [hread, hnow, hflags]
  · have hrun : (Use.restore ⟨xid, found⟩).run.run.run now = (.ok none, later) := by
      unfold Use.run
      rw [run_map, hrestore]
      rfl
    have hset := flags_run flags (Use.restore ⟨xid, found⟩) now
    rw [hrun] at hset
    rw [hset]
    exact Function.update_self _ _ _
  · have hxid : u.xid = xid := Use.xid_of_toggle? hu
    have hkept := flags_run_of_ne flags u now (hxid ▸ hother)
    rwa [hrun] at hkept

/-- A toggle disables its device, and one that was found disabled is enabled. The first attempt to
restore fails, so the device is read as disabled; the second one succeeds, and the other device
stays enabled. -/
theorem Toggle.uses_keep_flags_failed_restore :
    let flags : Flags := fun xid => xid ≠ 9
    let t := server flags fun past _ => past.length = 3
    let toggle : Toggle := ⟨8, true⟩
    let other : Toggle := ⟨9, false⟩
    let uses : List Use := [.switch toggle false, .switch other true, .restore toggle, .ask other]
    let made := ((Toggle.ofXid 8).run.run t).2
    let now := (runUses uses made).2
    let later := (toggle.restore.run.run now).2
    Serves t flags ∧ (Toggle.ofXid 8).run.run t = (.ok toggle, made) ∧
      (∀ u ∈ uses, ∀ other ∈ u.toggle?, other.xid = 8 → other = toggle) ∧
      ((runUses uses made).1[2]?.map fun entry => entry.2.toOption) = some none ∧
      (toggle.state.run.run now).1 = .ok false ∧
      false = (toggle.lastSet? (runUses uses made).1).getD (flags.afterAll t.past 8) ∧
      toggle.restore.run.run now = (.ok (), later) ∧ flags.afterAll later.past 8 = true ∧
      flags.afterAll later.past 9 = true := by
  intro flags t toggle other uses made now later
  have hserves : Serves t flags := serves_server flags _
  have hresult : ((Toggle.ofXid 8).run.run t).1 = .ok toggle := by decide +kernel
  have hmade : (Toggle.ofXid 8).run.run t = (.ok toggle, made) := Prod.ext hresult rfl
  have hown : ∀ u ∈ uses, ∀ other ∈ u.toggle?, other.xid = 8 → other = toggle := by decide
  have hfailed : ((runUses uses made).1[2]?.map fun entry => entry.2.toOption) = some none := by
    decide +kernel
  have hread : (toggle.state.run.run now).1 = .ok false := by decide +kernel
  have hrestored : (toggle.restore.run.run now).1 = .ok () := by decide +kernel
  have hrestore : toggle.restore.run.run now = (.ok (), later) := Prod.ext hrestored rfl
  have hother : flags.afterAll now.past 9 = true := by decide +kernel
  obtain ⟨hstate, hback, -, hleft, -⟩ := Toggle.uses_keep_flags hserves hmade hown
  have hlast := hstate false _ (Prod.ext hread rfl)
  have hrun : (Use.restore toggle).run.run.run now = (.ok none, later) := by
    unfold Use.run
    rw [run_map, hrestore]
    rfl
  refine ⟨hserves, hmade, hown, hfailed, hread, hlast, hrestore, hback later hrestore, ?_⟩
  rw [hleft _ _ later rfl hrun 9 (by decide), hother]

end KeyChord.Device
