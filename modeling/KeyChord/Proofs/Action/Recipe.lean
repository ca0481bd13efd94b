import KeyChord.Action.Recipe
import KeyChord.Proofs.Fallible
import KeyChord.Proofs.Members

/-!
# What a recipe accepts

A recipe is checked once, when it is read. What is accepted is known from the kind and from its
parameters as they are filled in, given or else by default, and what is reported is one fault,
in whatever order the parameters are given. No check is left for the actions of a recipe: an action
that looks its parameters up and checks them anew comes to the same.

* `Kind.Takes`, `Kind.filled`, `Allowed`: the parameters of a kind, the values that they have, and
  those that they may have.
* `Acceptable kind params k`, `RecipeFault kind params e`: a recipe of a kind, or what is wrong.
* `Recipe.ofParameters_eq_ok_iff`, `Recipe.ofParameters_eq_error_iff`: one or the other.
* `Recipe.fill`, `Recipe.action_eq`: an action is the recipe with a command that has been read.
* `Kind.build`: an action that checks the parameters when it is made.
* `Recipe.ofParameters_validates`: all of it, and that afterwards only the command can be at fault.
-/

namespace KeyChord.Action

open Fallible

/-! ## Kinds and their parameters -/

namespace Kind

variable {k : Kind} {params : Members String} {name : String}

theorem mem_all (k : Kind) : k ∈ all := by
  cases k <;> decide

theorem eq_of_name_eq {k k' : Kind} (h : k.name = k'.name) : k = k' := by
  revert h
  cases k <;> cases k' <;> decide

theorem ofName_eq_ok_iff : ofName name = .ok k ↔ k.name = name := by
  unfold ofName
  cases hfind : all.find? fun k => k.name = name with
  | none =>
      have hnone := List.find?_eq_none.1 hfind k (mem_all k)
      simpa using hnone
  | some k' =>
      have hname : k'.name = name := by simpa using List.find?_some hfind
      constructor
      · intro h
        cases h
        exact hname
      · intro h
        rw [eq_of_name_eq (h.trans hname.symm)]

theorem ofName_eq_error_iff {e : ActionError} :
    ofName name = .error e ↔ (∀ k : Kind, k.name ≠ name) ∧ e = .unknownKind name := by
  have hknown : (∀ k : Kind, k.name ≠ name) ↔ ∀ k, ofName name ≠ .ok k := by
    simp only [ne_eq, ofName_eq_ok_iff]
  rw [hknown]
  unfold ofName
  cases all.find? fun k => k.name = name with
  | none => simp [eq_comm]
  | some k => simp

/-- A parameter of the kind. -/
def Takes (k : Kind) (name : String) : Prop :=
  name ∈ k.defaults.map Prod.fst

instance (k : Kind) (name : String) : Decidable (k.Takes name) :=
  inferInstanceAs (Decidable (name ∈ k.defaults.map Prod.fst))

/-- The parameters of a kind, each with the value that is given for it or else the default. -/
def filled (k : Kind) (params : Members String) : Members String :=
  k.defaults.map fun m => (m.1, (params.get? m.1).getD m.2)

theorem names_filled (k : Kind) (params : Members String) :
    (k.filled params).map Prod.fst = k.defaults.map Prod.fst := by
  rw [filled, List.map_map]
  rfl

theorem get?_filled (k : Kind) (params : Members String) (name : String) :
    (k.filled params).get? name =
      (k.defaults.get? name).map fun default => (params.get? name).getD default := by
  unfold filled
  induction k.defaults with
  | nil => rfl
  | cons m rest ih =>
      obtain ⟨n, default⟩ := m
      rw [List.map_cons, Members.get?_cons, Members.get?_cons, ih]
      by_cases hname : name = n
      · rw [if_pos hname, if_pos hname, hname]
        rfl
      · rw [if_neg hname, if_neg hname]

/-- Filling parameters in is putting what is given over the defaults. -/
theorem putAll_defaults (hnodup : (params.map Prod.fst).Nodup)
    (hknown : ∀ m ∈ params, k.Takes m.1) : k.defaults.putAll params = k.filled params := by
  have hnames : (k.defaults.putAll params).map Prod.fst = k.defaults.map Prod.fst :=
    Members.names_putAll_of_mem hknown
  apply Members.eq_of_get?_eq
  · rw [hnames, names_filled]
  · rw [hnames]
    cases k <;> decide
  · intro name
    rw [Members.get?_putAll k.defaults hnodup, get?_filled]
    cases hdefault : k.defaults.get? name with
    | some default => cases params.get? name <;> rfl
    | none =>
        -- a name without a default is not a parameter, so it is not given either
        have hname : name ∉ params.map Prod.fst := by
          intro hmem
          obtain ⟨m, hm, rfl⟩ := List.mem_map.1 hmem
          exact Members.get?_eq_none_iff.1 hdefault (hknown m hm)
        rw [Members.get?_eq_none_iff.2 hname]
        rfl

/-- The parameters that are given but that the kind does not take. -/
def unknown (k : Kind) (params : Members String) : List (String × String) :=
  params.filter fun m => (k.defaults.get? m.1).isNone

theorem mem_unknown {m : String × String} :
    m ∈ k.unknown params ↔ m ∈ params ∧ ¬ k.Takes m.1 := by
  rw [unknown, List.mem_filter, Option.isNone_iff_eq_none, Members.get?_eq_none_iff, Takes]

end Kind

/-! ## The parameter that is reported -/

theorem leastMember?_eq_none_iff {ms : List (String × String)} :
    leastMember? ms = none ↔ ms = [] := by
  cases ms with
  | nil => simp [leastMember?]
  | cons m ms =>
      rw [leastMember?]
      cases leastMember? ms with
      | none => simp
      | some least => dsimp only; split <;> simp

theorem leastMember?_spec {ms : List (String × String)} {m : String × String}
    (h : leastMember? ms = some m) : m ∈ ms ∧ ∀ m' ∈ ms, m.1 ≤ m'.1 := by
  induction ms generalizing m with
  | nil => cases h
  | cons first ms ih =>
      rw [leastMember?] at h
      cases hrest : leastMember? ms with
      | none =>
          rw [leastMember?_eq_none_iff.1 hrest]
          rw [hrest] at h
          cases h
          simp
      | some least =>
          obtain ⟨hmem, hle⟩ := ih hrest
          rw [hrest] at h
          dsimp only at h
          by_cases hlt : least.1 < first.1
          · rw [if_pos hlt] at h
            cases h
            refine ⟨List.mem_cons_of_mem first hmem, List.forall_mem_cons.2 ⟨?_, hle⟩⟩
            exact String.not_lt.1 (String.lt_asymm hlt)
          · rw [if_neg hlt] at h
            cases h
            refine ⟨List.mem_cons_self, List.forall_mem_cons.2 ⟨String.le_refl _, ?_⟩⟩
            intro m' hm'
            exact String.le_trans (String.not_lt.1 hlt) (hle m' hm')

/-- Of names that differ the least one is found, in whatever order they come. -/
theorem leastMember?_eq_some_iff {ms : List (String × String)} {m : String × String}
    (h : (ms.map Prod.fst).Nodup) :
    leastMember? ms = some m ↔ m ∈ ms ∧ ∀ m' ∈ ms, m.1 ≤ m'.1 := by
  refine ⟨leastMember?_spec, fun ⟨hmem, hle⟩ => ?_⟩
  cases hleast : leastMember? ms with
  | none =>
      rw [leastMember?_eq_none_iff.1 hleast] at hmem
      cases hmem
  | some least =>
      obtain ⟨hmem', hle'⟩ := leastMember?_spec hleast
      have hname : least.1 = m.1 := String.le_antisymm (hle' m hmem) (hle least hmem')
      rw [List.inj_on_of_nodup_map h hmem' hmem hname]

section

variable {k : Kind} {params : Members String}

theorem leastMember?_unknown_eq_none_iff :
    leastMember? (k.unknown params) = none ↔ ∀ m ∈ params, k.Takes m.1 := by
  rw [leastMember?_eq_none_iff, List.eq_nil_iff_forall_not_mem]
  simp only [Kind.mem_unknown, not_and, not_not]

theorem leastMember?_unknown_eq_some_iff {m : String × String}
    (h : (params.map Prod.fst).Nodup) :
    leastMember? (k.unknown params) = some m ↔
      (m ∈ params ∧ ¬ k.Takes m.1) ∧ ∀ m' ∈ params, ¬ k.Takes m'.1 → m.1 ≤ m'.1 := by
  have hunknown : ((k.unknown params).map Prod.fst).Nodup :=
    h.sublist (List.filter_sublist.map Prod.fst)
  rw [leastMember?_eq_some_iff hunknown]
  simp only [Kind.mem_unknown, and_imp]

end

/-! ## Values -/

/-- A value that the parameter of that name may have. -/
def Allowed (m : String × String) : Prop :=
  m.2 ≠ "" ∧ (m.1 = "mode" → m.2 = "w" ∨ m.2 = "a")

instance (m : String × String) : Decidable (Allowed m) :=
  inferInstanceAs (Decidable (m.2 ≠ "" ∧ (m.1 = "mode" → m.2 = "w" ∨ m.2 = "a")))

/-- A parameter, if it may have the value that it has. -/
def checked (m : String × String) : Except ActionError (String × String) :=
  if Allowed m then .ok m else .error (.badParameter m.1 m.2)

theorem checked_eq_ok_iff {m m' : String × String} : checked m = .ok m' ↔ Allowed m ∧ m = m' := by
  unfold checked
  split <;> simp [*]

theorem checked_eq_error_iff {m : String × String} {e : ActionError} :
    checked m = .error e ↔ ¬ Allowed m ∧ e = .badParameter m.1 m.2 := by
  unfold checked
  split <;> simp [*, eq_comm]

theorem mapM_checked_eq_ok_iff {ms ms' : List (String × String)} :
    ms.mapM checked = .ok ms' ↔ (∀ m ∈ ms, Allowed m) ∧ ms = ms' := by
  simp only [mapM_eq_ok_iff, checked_eq_ok_iff, List.forall₂_and_left, List.forall₂_eq_eq_eq]

@[simp] theorem modeOfText_modeText (mode : FileSystem.WriteMode) :
    modeOfText (modeText mode) = .ok mode := by
  cases mode <;> rfl

section

variable {params defaults : Members String} {name default : String}

theorem required_eq (h : defaults.get? name = some default) :
    required params defaults name =
      if (params.get? name).getD default = "" then
        .error (.badParameter name ((params.get? name).getD default))
      else .ok ((params.get? name).getD default) := by
  unfold required
  rw [h]
  cases params.get? name <;> rfl

/-- A parameter that is wanted is checked with the value that it has. -/
theorem required_eq_checked (h : defaults.get? name = some default) (hname : name ≠ "mode") :
    required params defaults name =
      (checked (name, (params.get? name).getD default)).map Prod.snd := by
  rw [required_eq h]
  generalize (params.get? name).getD default = value
  by_cases hvalue : value = ""
  · rw [if_pos hvalue, checked, if_neg fun h : Allowed _ => h.1 hvalue]
    rfl
  · rw [if_neg hvalue, checked, if_pos ⟨hvalue, fun h => absurd h hname⟩]
    rfl

/-- The letter of a mode is looked at twice, and a bad one is reported in the same way. -/
theorem required_mode_eq_checked (h : defaults.get? "mode" = some default) :
    (required params defaults "mode" >>= modeOfText).map modeText =
      (checked ("mode", (params.get? "mode").getD default)).map Prod.snd := by
  rw [required_eq h]
  generalize (params.get? "mode").getD default = value
  by_cases hallowed : Allowed ("mode", value)
  · obtain ⟨hvalue, hletter⟩ := hallowed
    rcases hletter rfl with rfl | rfl <;> rfl
  · have hletter : ¬ (value = "w" ∨ value = "a") := by
      rintro (rfl | rfl) <;> exact hallowed (by decide)
    rw [not_or] at hletter
    rw [checked, if_neg hallowed]
    by_cases hvalue : value = ""
    · rw [if_pos hvalue]
      rfl
    · rw [if_neg hvalue]
      show (modeOfText value).map modeText = _
      rw [modeOfText, if_neg hletter.1, if_neg hletter.2]
      rfl

end

/-! ## One recipe -/

/-- The recipe of a kind, for parameters that it takes. -/
def Kind.recipe (k : Kind) (params : Members String) : Except ActionError Recipe :=
  match k with
  | .dummy => pure .dummy
  | .shell => do
    let user ← required params k.defaults "user"
    pure (.shell user)
  | .pipe => do
    let path ← required params k.defaults "path"
    let mode ← required params k.defaults "mode"
    let mode ← modeOfText mode
    pure (.pipe path mode)

/-- **Checking the parameters one by one is checking all that are filled in.** -/
theorem Kind.recipe_parameters (k : Kind) (params : Members String) :
    (k.recipe params).map Recipe.parameters = (k.filled params).mapM checked := by
  cases k with
  | dummy => rfl
  | shell =>
      have huser : required params Kind.shell.defaults "user" =
          (checked ("user", (params.get? "user").getD "nobody")).map Prod.snd :=
        required_eq_checked rfl (by decide)
      rw [Kind.recipe, huser, Kind.filled]
      simp only [Kind.defaults, List.map_cons, List.map_nil, List.mapM_cons, List.mapM_nil]
      generalize (params.get? "user").getD "nobody" = user
      cases hchecked : checked ("user", user) with
      | error e => rfl
      | ok m =>
          obtain ⟨-, rfl⟩ := checked_eq_ok_iff.1 hchecked
          rfl
  | pipe =>
      have hpath : required params Kind.pipe.defaults "path" =
          (checked ("path", (params.get? "path").getD "/dev/null")).map Prod.snd :=
        required_eq_checked rfl (by decide)
      have hmode : (required params Kind.pipe.defaults "mode" >>= modeOfText).map modeText =
          (checked ("mode", (params.get? "mode").getD "w")).map Prod.snd :=
        required_mode_eq_checked rfl
      rw [Kind.recipe, hpath, Kind.filled]
      simp only [Kind.defaults, List.map_cons, List.map_nil, List.mapM_cons,
        List.mapM_nil] at hmode ⊢
      generalize (params.get? "path").getD "/dev/null" = path
      generalize (params.get? "mode").getD "w" = letter at hmode ⊢
      cases hchecked : checked ("path", path) with
      | error e => rfl
      | ok m =>
          obtain ⟨-, rfl⟩ := checked_eq_ok_iff.1 hchecked
          show (required params _ "mode" >>= fun text => modeOfText text >>= fun mode =>
            pure (.pipe path mode)).map Recipe.parameters = _
          -- wanting a letter and reading it as a mode are one check of one parameter
          rw [← bind_assoc]
          cases hchecked' : checked ("mode", letter) with
          | error e =>
              rw [hchecked'] at hmode
              rw [map_eq_error_iff.1 hmode]
              rfl
          | ok m =>
              obtain ⟨-, rfl⟩ := checked_eq_ok_iff.1 hchecked'
              rw [hchecked'] at hmode
              obtain ⟨mode, hread, rfl⟩ := map_eq_ok_iff.1 hmode
              rw [hread]
              rfl

theorem Kind.kind_of_recipe {k : Kind} {params : Members String} {r : Recipe}
    (h : k.recipe params = .ok r) : r.kind = k := by
  cases k with
  | dummy =>
      cases h
      rfl
  | shell =>
      obtain ⟨user, -, h⟩ := bind_eq_ok_iff.1 h
      cases h
      rfl
  | pipe =>
      obtain ⟨path, -, h⟩ := bind_eq_ok_iff.1 h
      obtain ⟨letter, -, h⟩ := bind_eq_ok_iff.1 h
      obtain ⟨mode, -, h⟩ := bind_eq_ok_iff.1 h
      cases h
      rfl

theorem Recipe.eq_of_parameters_eq {r r' : Recipe} (hkind : r.kind = r'.kind)
    (h : r.parameters = r'.parameters) : r = r' := by
  cases r <;> cases r' <;> cases hkind
  case dummy.dummy => rfl
  case shell.shell =>
      cases h
      rfl
  case pipe.pipe path mode path' mode' =>
      simp only [Recipe.parameters, List.cons.injEq, Prod.mk.injEq, true_and, and_true] at h
      obtain ⟨rfl, hmode⟩ := h
      have hread := modeOfText_modeText mode
      rw [hmode, modeOfText_modeText] at hread
      cases hread
      rfl

/-- A kind makes a recipe of values that are allowed, with the parameters filled in. -/
theorem Kind.recipe_eq_ok_iff {k : Kind} {params : Members String} {r : Recipe} :
    k.recipe params = .ok r ↔
      r.kind = k ∧ (∀ m ∈ k.filled params, Allowed m) ∧ r.parameters = k.filled params := by
  have hchecked : (k.recipe params).map Recipe.parameters = .ok r.parameters ↔
      (∀ m ∈ k.filled params, Allowed m) ∧ r.parameters = k.filled params := by
    rw [Kind.recipe_parameters, mapM_checked_eq_ok_iff, eq_comm (a := r.parameters)]
  rw [← hchecked, map_eq_ok_iff]
  constructor
  · intro h
    exact ⟨Kind.kind_of_recipe h, r, h, rfl⟩
  · rintro ⟨hkind, r', hr', hparameters⟩
    rw [hr', Recipe.eq_of_parameters_eq ((Kind.kind_of_recipe hr').trans hkind.symm) hparameters]

theorem Kind.exists_recipe_eq_ok_iff {k : Kind} {params : Members String} :
    (∃ r, k.recipe params = .ok r) ↔ ∀ m ∈ k.filled params, Allowed m := by
  constructor
  · rintro ⟨r, hr⟩
    exact (Kind.recipe_eq_ok_iff.1 hr).2.1
  · intro h
    have hchecked := mapM_checked_eq_ok_iff.2 ⟨h, rfl⟩
    rw [← Kind.recipe_parameters] at hchecked
    obtain ⟨r, hr, -⟩ := map_eq_ok_iff.1 hchecked
    exact ⟨r, hr⟩

/-- It reports the first value that is not allowed. -/
theorem Kind.recipe_eq_error_iff {k : Kind} {params : Members String} {e : ActionError} :
    k.recipe params = .error e ↔ ∃ before m after, k.filled params = before ++ m :: after ∧
      (∀ m' ∈ before, Allowed m') ∧ ¬ Allowed m ∧ e = .badParameter m.1 m.2 := by
  rw [← map_eq_error_iff (f := Recipe.parameters), Kind.recipe_parameters, mapM_eq_error_iff]
  simp only [checked_eq_ok_iff, checked_eq_error_iff, exists_and_left, exists_eq', and_true]

/-! ## All recipes -/

/-- The kind has that name, takes every parameter that is given, and allows the value of each
parameter. -/
structure Acceptable (kind : String) (params : Members String) (k : Kind) : Prop where
  name_eq : k.name = kind
  takes : ∀ m ∈ params, k.Takes m.1
  allowed : ∀ m ∈ k.filled params, Allowed m

/-- What is wrong with a recipe: its kind first, then the least name that is given and not taken,
then the first value that is not allowed, in the order of the defaults. -/
inductive RecipeFault (kind : String) (params : Members String) : ActionError → Prop
  | kind (h : ∀ k : Kind, k.name ≠ kind) : RecipeFault kind params (.unknownKind kind)
  | name {k : Kind} {m : String × String} (hk : k.name = kind)
      (hm : m ∈ params ∧ ¬ k.Takes m.1) (hleast : ∀ m' ∈ params, ¬ k.Takes m'.1 → m.1 ≤ m'.1) :
      RecipeFault kind params (.badParameter m.1 m.2)
  | value {k : Kind} {before after : Members String} {m : String × String} (hk : k.name = kind)
      (htakes : ∀ m ∈ params, k.Takes m.1) (hsplit : k.filled params = before ++ m :: after)
      (hbefore : ∀ m ∈ before, Allowed m) (hvalue : ¬ Allowed m) :
      RecipeFault kind params (.badParameter m.1 m.2)

section

variable {kind : String} {params params' : Members String} {k : Kind}

theorem Kind.filled_of_perm (h : (params.map Prod.fst).Nodup) (hperm : params'.Perm params) :
    k.filled params' = k.filled params := by
  simp only [Kind.filled, Members.get?_eq_of_perm h hperm]

theorem Acceptable.of_perm (h : (params.map Prod.fst).Nodup) (hperm : params'.Perm params)
    (hk : Acceptable kind params k) : Acceptable kind params' k := by
  refine ⟨hk.name_eq, fun m hm => hk.takes m (hperm.mem_iff.1 hm), ?_⟩
  rw [Kind.filled_of_perm h hperm]
  exact hk.allowed

theorem RecipeFault.of_perm (h : (params.map Prod.fst).Nodup) (hperm : params'.Perm params)
    {e : ActionError} (he : RecipeFault kind params e) : RecipeFault kind params' e := by
  cases he with
  | kind h => exact .kind h
  | name hk hm hleast =>
      exact .name hk ⟨hperm.mem_iff.2 hm.1, hm.2⟩ fun m' hm' => hleast m' (hperm.mem_iff.1 hm')
  | value hk htakes hsplit hbefore hvalue =>
      rw [← Kind.filled_of_perm h hperm] at hsplit
      exact .value hk (fun m hm => htakes m (hperm.mem_iff.1 hm)) hsplit hbefore hvalue

end

namespace Recipe

variable {kind : String} {params : Members String} {r : Recipe}

theorem ofParameters_eq (kind : String) (params : Members String) :
    ofParameters kind params = (do
      let k ← Kind.ofName kind
      match leastMember? (k.unknown params) with
      | some (name, value) => throw (.badParameter name value)
      | none => k.recipe params) := by
  unfold ofParameters
  cases Kind.ofName kind with
  | error e => rfl
  | ok k => cases k <;> rfl

theorem ofParameters_eq_ok_iff_recipe :
    ofParameters kind params = .ok r ↔
      ∃ k : Kind, k.name = kind ∧ (∀ m ∈ params, k.Takes m.1) ∧ k.recipe params = .ok r := by
  rw [ofParameters_eq]
  simp only [bind_eq_ok_iff, Kind.ofName_eq_ok_iff, ← leastMember?_unknown_eq_none_iff]
  refine exists_congr fun k => and_congr_right fun _ => ?_
  cases leastMember? (k.unknown params) with
  | some m => simp [throw, throwThe, MonadExceptOf.throw]
  | none => simp

/-- **What is acceptable makes a recipe, with the parameters filled in.** -/
theorem ofParameters_eq_ok_iff :
    ofParameters kind params = .ok r ↔
      Acceptable kind params r.kind ∧ r.parameters = r.kind.filled params := by
  rw [ofParameters_eq_ok_iff_recipe]
  simp only [Kind.recipe_eq_ok_iff]
  constructor
  · rintro ⟨k, hk, htakes, rfl, hallowed, hparameters⟩
    exact ⟨⟨hk, htakes, hallowed⟩, hparameters⟩
  · rintro ⟨⟨hk, htakes, hallowed⟩, hparameters⟩
    exact ⟨r.kind, hk, htakes, rfl, hallowed, hparameters⟩

theorem exists_ofParameters_eq_ok_iff :
    (∃ r, ofParameters kind params = .ok r) ↔ ∃ k, Acceptable kind params k := by
  simp only [ofParameters_eq_ok_iff_recipe]
  constructor
  · rintro ⟨r, k, hk, htakes, hr⟩
    exact ⟨k, hk, htakes, Kind.exists_recipe_eq_ok_iff.1 ⟨r, hr⟩⟩
  · rintro ⟨k, hk, htakes, hallowed⟩
    obtain ⟨r, hr⟩ := Kind.exists_recipe_eq_ok_iff.2 hallowed
    exact ⟨r, k, hk, htakes, hr⟩

/-- **Or else what is wrong first is reported.** -/
theorem ofParameters_eq_error_iff (hnodup : (params.map Prod.fst).Nodup) {e : ActionError} :
    ofParameters kind params = .error e ↔ RecipeFault kind params e := by
  rw [ofParameters_eq]
  simp only [bind_eq_error_iff, Kind.ofName_eq_ok_iff, Kind.ofName_eq_error_iff]
  constructor
  · rintro (⟨h, rfl⟩ | ⟨k, hk, h⟩)
    · exact .kind h
    · cases hleast : leastMember? (k.unknown params) with
      | some m =>
          rw [hleast] at h
          cases h
          obtain ⟨hm, hle⟩ := (leastMember?_unknown_eq_some_iff hnodup).1 hleast
          exact .name hk hm hle
      | none =>
          rw [hleast] at h
          obtain ⟨before, m, after, hsplit, hbefore, hm, rfl⟩ := Kind.recipe_eq_error_iff.1 h
          exact .value hk (leastMember?_unknown_eq_none_iff.1 hleast) hsplit hbefore hm
  · intro h
    cases h with
    | kind h => exact Or.inl ⟨h, rfl⟩
    | @name k m hk hm hleast =>
        refine Or.inr ⟨k, hk, ?_⟩
        rw [(leastMember?_unknown_eq_some_iff hnodup).2 ⟨hm, hleast⟩]
        rfl
    | @value k before after m hk htakes hsplit hbefore hm =>
        refine Or.inr ⟨k, hk, ?_⟩
        rw [leastMember?_unknown_eq_none_iff.2 htakes]
        exact Kind.recipe_eq_error_iff.2 ⟨before, m, after, hsplit, hbefore, hm, rfl⟩

/-- The order in which parameters are given makes no difference, not even to what is reported. -/
theorem ofParameters_of_perm {params' : Members String} (h : (params.map Prod.fst).Nodup)
    (hperm : params'.Perm params) : ofParameters kind params' = ofParameters kind params := by
  cases hread : ofParameters kind params with
  | ok r =>
      obtain ⟨hacceptable, hparameters⟩ := ofParameters_eq_ok_iff.1 hread
      rw [ofParameters_eq_ok_iff, Kind.filled_of_perm h hperm]
      exact ⟨hacceptable.of_perm h hperm, hparameters⟩
  | error e =>
      have h' : (params'.map Prod.fst).Nodup := (hperm.map Prod.fst).nodup_iff.2 h
      rw [ofParameters_eq_error_iff h']
      exact ((ofParameters_eq_error_iff h).1 hread).of_perm h hperm

end Recipe

/-! ## Actions -/

/-- The action that a kind makes of a command, with parameters that are looked up and checked when
it is made. -/
def Kind.build (k : Kind) (parameters : Members String) (command : String) :
    Except ActionError Action := do
  let template ← (Template.ofText command).mapError .ofTemplate
  match k with
  | .dummy => pure .dummy
  | .shell => do
    let user ← required parameters [] "user"
    pure (.shell user template)
  | .pipe => do
    let path ← required parameters [] "path"
    let mode ← required parameters [] "mode"
    let mode ← modeOfText mode
    pure (.pipe path mode template)

namespace Recipe

/-- The action of a recipe and a command that has been read. -/
def fill : Recipe → Template → Action
  | dummy, _ => .dummy
  | shell user, template => .shell user template
  | pipe path mode, template => .pipe path mode template

/-- Only the command can be at fault once there is a recipe. -/
theorem action_eq (r : Recipe) (command : String) :
    r.action command = ((Template.ofText command).mapError .ofTemplate).map r.fill := by
  unfold Recipe.action
  cases Template.ofText command with
  | error e => rfl
  | ok template => cases r <;> rfl

theorem action_eq_error_iff {r : Recipe} {command : String} {e : ActionError} :
    r.action command = .error e ↔
      ∃ fault, Template.ofText command = .error fault ∧ .ofTemplate fault = e := by
  rw [action_eq, map_eq_error_iff, mapError_eq_error_iff]

theorem required_of_get? {params defaults : Members String} {name value : String}
    (h : params.get? name = some value) (hvalue : value ≠ "") :
    required params defaults name = .ok value := by
  unfold required
  rw [h]
  exact if_neg hvalue

/-- **The parameters of a recipe pass every check that is made once more.** -/
theorem build_parameters {r : Recipe} (h : ∀ m ∈ r.parameters, Allowed m) (command : String) :
    r.kind.build r.parameters command = r.action command := by
  unfold Kind.build Recipe.action
  cases Template.ofText command with
  | error e => rfl
  | ok template =>
      cases r with
      | dummy => rfl
      | shell user =>
          have huser : required (shell user).parameters [] "user" = .ok user :=
            required_of_get? rfl (h ("user", user) (by simp [parameters])).1
          show (required _ [] "user" >>= fun u => pure (Action.shell u template)) = _
          rw [huser]
          rfl
      | pipe path mode =>
          have hpath : required (pipe path mode).parameters [] "path" = .ok path :=
            required_of_get? rfl (h ("path", path) (by simp [parameters])).1
          have hletter : required (pipe path mode).parameters [] "mode" = .ok (modeText mode) :=
            required_of_get? rfl (h ("mode", modeText mode) (by simp [parameters])).1
          show (required _ [] "path" >>= fun p => required _ [] "mode" >>= fun letter =>
            modeOfText letter >>= fun m => pure (Action.pipe p m template)) = _
          rw [hpath, hletter]
          show (modeOfText (modeText mode) >>= fun m => pure (Action.pipe path m template)) = _
          rw [modeOfText_modeText]
          rfl

/-- **A recipe leaves only the command to be at fault.** There is one exactly if its kind is known,
nothing is given that the kind does not take, and the values are allowed, and else the first thing
that is wrong is reported; the order in which parameters are given does not matter. Each recipe has
the parameters that are given put over the defaults, and its actions are those for which they are
looked up and checked anew, so an action fails exactly if its command does, and in the same way. -/
theorem ofParameters_validates {kind : String} {params : Members String}
    (hnodup : (params.map Prod.fst).Nodup) :
    ((∃ r, ofParameters kind params = .ok r) ↔ ∃ k, Acceptable kind params k) ∧
      (∀ e, ofParameters kind params = .error e ↔ RecipeFault kind params e) ∧
      (∀ params' : Members String, params'.Perm params →
        ofParameters kind params' = ofParameters kind params) ∧
      ∀ r, ofParameters kind params = .ok r →
        r.kind.name = kind ∧ r.parameters = r.kind.filled params ∧
          ∀ command,
            r.kind.build (r.kind.defaults.putAll params) command = r.action command ∧
              ∀ e, r.action command = .error e ↔
                ∃ fault, Template.ofText command = .error fault ∧ .ofTemplate fault = e := by
  refine ⟨exists_ofParameters_eq_ok_iff, fun e => ofParameters_eq_error_iff hnodup,
    fun params' => ofParameters_of_perm hnodup, fun r hr => ?_⟩
  obtain ⟨hacceptable, hparameters⟩ := ofParameters_eq_ok_iff.1 hr
  refine ⟨hacceptable.name_eq, hparameters, fun command => ⟨?_, fun e => action_eq_error_iff⟩⟩
  -- what is put over the defaults is what has been checked when the recipe was read
  rw [Kind.putAll_defaults hnodup hacceptable.takes, ← hparameters]
  apply build_parameters
  rw [hparameters]
  exact hacceptable.allowed

/-- Of two names that a pipe does not take the lesser is reported, of two bad values that of the
path, and a pipe in order is left with a brace that is not closed. -/
theorem ofParameters_validates_pipe :
    ofParameters "pipe" [("zeta", "1"), ("mode", "r"), ("alpha", "2")] =
        .error (.badParameter "alpha" "2") ∧
      ofParameters "pipe" [("mode", "r"), ("path", "")] = .error (.badParameter "path" "") ∧
      ofParameters "pipe" [("mode", "a")] = .ok (pipe "/dev/null" .append) ∧
      (pipe "/dev/null" .append).action "\x7b" = .error (.ofTemplate ⟨.unclosed, "\x7b"⟩) := by
  have hpipe : ofParameters "pipe" [("mode", "a")] = .ok (pipe "/dev/null" .append) := by decide
  refine ⟨?_, ?_, hpipe, ?_⟩
  · exact ((ofParameters_validates (by decide)).2.1 _).2
      (.name (k := .pipe) (m := ("alpha", "2")) rfl (by decide) (by decide))
  · have hsplit : Kind.pipe.filled [("mode", "r"), ("path", "")] =
        [] ++ ("path", "") :: [("mode", "r")] := rfl
    exact ((ofParameters_validates (by decide)).2.1 _).2
      (.value rfl (by decide) hsplit (by decide) (by decide))
  · have hcommand := ((ofParameters_validates (by decide)).2.2.2 _ hpipe).2.2 "\x7b"
    exact (hcommand.2 _).2 ⟨⟨.unclosed, "\x7b"⟩, rfl, rfl⟩

end Recipe

end KeyChord.Action
