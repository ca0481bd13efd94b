import KeyChord.Members
import Mathlib.Data.List.Induction
import Mathlib.Data.List.Nodup

/-!
# Merging members

Members that are put over others, layer after layer, make what can be said name by name: every name
once, where it came first, with the value of the last layer that has it. Nothing else fits this
description, so it can be used in place of the program.

* `Merges layers merged`: the description.
* `merges_foldl`: putting layer after layer makes members that fit it.
* `Merges.unique`: nothing else fits it.

Members that are written one by one are the same case: a name stands where it was first written and
has the value that was last written for it.

* `firstNames written`, `LastWritten written name value`: the names in order, and the value of each.
* `names_ofList`, `mem_ofList_iff`: these are the members.
* `forall₂_ofList_iff`, `exists_split_ofList_iff`: a walk over the members, and one up to the first
  member of a kind, in terms of what is written.
-/

namespace KeyChord

namespace Members

variable {α : Type}

/-- Every name of the layers once, in the order in which the names first come, with the value that
the last layer with that name has for it. -/
structure Merges (layers : List (Members α)) (merged : Members α) : Prop where
  names_eq : merged.map Prod.fst = (layers.flatMap (·.map Prod.fst)).eraseDups
  get?_eq : ∀ name, merged.get? name = layers.reverse.findSome? (·.get? name)

theorem get?_eq_none_iff {members : Members α} {name : String} :
    members.get? name = none ↔ name ∉ members.map Prod.fst := by
  unfold get?
  rw [List.lookup_eq_none_iff]
  simp only [bne_iff_ne, List.mem_map, not_exists, not_and]
  exact ⟨fun h m hm he => h m hm he.symm, fun h m hm he => h m hm he.symm⟩

theorem get?_cons (name n : String) (v : α) (rest : Members α) :
    get? ((n, v) :: rest) name = if name = n then some v else rest.get? name := by
  unfold get?
  rw [List.lookup_cons]
  by_cases h : name = n
  · simp [h]
  · simp [h, beq_eq_false_iff_ne.2 h]

theorem names_put {base : Members α} {names : List String}
    (h : base.map Prod.fst = names.eraseDups) (name : String) (value : α) :
    (put name value base).map Prod.fst = (names ++ [name]).eraseDups := by
  rw [List.eraseDups_append]
  by_cases hname : name ∈ names
  · rw [names_put_of_mem value (by rw [h]; exact List.mem_eraseDups.2 hname), h]
    simp [List.removeAll, hname]
  · rw [names_put_of_not_mem value (by rw [h]; exact fun hmem => hname (List.mem_eraseDups.1 hmem)),
      h]
    simp [List.removeAll, hname, List.eraseDups_cons]

theorem names_putAll {base : Members α} {names : List String}
    (h : base.map Prod.fst = names.eraseDups) (added : List (String × α)) :
    (putAll base added).map Prod.fst = (names ++ added.map Prod.fst).eraseDups := by
  induction added generalizing base names with
  | nil => simpa [putAll] using h
  | cons m added ih =>
      show (putAll (put m.1 m.2 base) added).map Prod.fst = _
      rw [ih (names_put h m.1 m.2), List.map_cons, List.append_assoc, List.singleton_append]

/-- Nothing new is added by names that are there. -/
theorem names_putAll_of_mem {base : Members α} {added : List (String × α)}
    (h : ∀ m ∈ added, m.1 ∈ base.map Prod.fst) :
    (putAll base added).map Prod.fst = base.map Prod.fst := by
  induction added generalizing base with
  | nil => rfl
  | cons m added ih =>
      rw [List.forall_mem_cons] at h
      have hput : (put m.1 m.2 base).map Prod.fst = base.map Prod.fst := names_put_of_mem m.2 h.1
      show (putAll (put m.1 m.2 base) added).map Prod.fst = _
      rw [ih (by rw [hput]; exact h.2), hput]

theorem nodup_put {base : Members α} (h : (base.map Prod.fst).Nodup) (name : String) (value : α) :
    ((put name value base).map Prod.fst).Nodup := by
  by_cases hname : name ∈ base.map Prod.fst
  · rw [names_put_of_mem value hname]
    exact h
  · rw [names_put_of_not_mem value hname, ← List.concat_eq_append]
    exact h.concat hname

theorem nodup_putAll {base : Members α} (h : (base.map Prod.fst).Nodup)
    (added : List (String × α)) : ((putAll base added).map Prod.fst).Nodup := by
  induction added generalizing base with
  | nil => exact h
  | cons m added ih => exact ih (nodup_put h m.1 m.2)

/-- However often a name is written, it is a member once. -/
theorem nodup_ofList (written : List (String × α)) : ((ofList written).map Prod.fst).Nodup :=
  nodup_putAll (by simp) written

/-- What a layer has a value for gets this value, all else keeps the one it had. -/
theorem get?_putAll (base : Members α) {layer : Members α} (h : (layer.map Prod.fst).Nodup)
    (name : String) : (putAll base layer).get? name = (layer.get? name).or (base.get? name) := by
  induction layer generalizing base with
  | nil => rfl
  | cons m layer ih =>
      obtain ⟨n, v⟩ := m
      rw [List.map_cons, List.nodup_cons] at h
      show (putAll (put n v base) layer).get? name = _
      rw [ih (put n v base) h.2, get?_cons]
      by_cases hname : name = n
      · subst hname
        rw [get?_eq_none_iff.2 h.1, get?_put_self, if_pos rfl]
        rfl
      · rw [get?_put_of_ne hname, if_neg hname]

theorem Merges.nil : Merges ([] : List (Members α)) [] :=
  ⟨rfl, fun _ => rfl⟩

/-- One more layer is put over what has been merged. -/
theorem Merges.putAll {layers : List (Members α)} {merged layer : Members α}
    (h : Merges layers merged) (hlayer : (layer.map Prod.fst).Nodup) :
    Merges (layers ++ [layer]) (merged.putAll layer) := by
  constructor
  · rw [names_putAll h.names_eq layer, List.flatMap_append, List.flatMap_singleton]
  · intro name
    rw [get?_putAll merged hlayer, h.get?_eq name, List.reverse_append, List.reverse_singleton,
      List.singleton_append, List.findSome?_cons]
    cases layer.get? name <;> rfl

/-- **Putting layer after layer merges them.** -/
theorem merges_foldl {layers : List (Members α)}
    (h : ∀ layer ∈ layers, (layer.map Prod.fst).Nodup) :
    Merges layers (layers.foldl Members.putAll []) := by
  -- Layers that have been put already stand before those that are still to come.
  have hrun (before merged) (hbefore : Merges before merged) :
      Merges (before ++ layers) (layers.foldl Members.putAll merged) := by
    induction layers generalizing before merged with
    | nil => rwa [List.append_nil]
    | cons layer layers ih =>
        rw [List.forall_mem_cons] at h
        have := ih h.2 (before ++ [layer]) (merged.putAll layer) (hbefore.putAll h.1)
        rwa [List.append_assoc, List.singleton_append] at this
  exact hrun [] [] .nil

theorem nodup_foldl {base : Members α} (h : (base.map Prod.fst).Nodup)
    (layers : List (Members α)) : ((layers.foldl Members.putAll base).map Prod.fst).Nodup := by
  induction layers generalizing base with
  | nil => exact h
  | cons layer layers ih => exact ih (nodup_putAll h layer)

/-- Members are known by their names in order and the value of each. -/
theorem eq_of_get?_eq {a b : Members α} (hnames : a.map Prod.fst = b.map Prod.fst)
    (hnodup : (a.map Prod.fst).Nodup) (hget : ∀ name, a.get? name = b.get? name) : a = b := by
  induction a generalizing b with
  | nil => exact (List.map_eq_nil_iff.1 hnames.symm).symm
  | cons m a ih =>
      obtain ⟨n, v⟩ := m
      cases b with
      | nil => simp at hnames
      | cons m' b =>
          obtain ⟨n', v'⟩ := m'
          obtain ⟨rfl, htail⟩ := List.cons.inj hnames
          rw [List.map_cons, List.nodup_cons] at hnodup
          simp only [get?_cons] at hget
          have hv : v = v' := by simpa using hget n
          rw [hv, ih htail hnodup.2]
          intro name
          by_cases hname : name = n
          · subst hname
            rw [get?_eq_none_iff.2 hnodup.1, get?_eq_none_iff.2 (htail ▸ hnodup.1)]
          · simpa [hname] using hget name

theorem put_of_not_mem {name : String} {base : Members α} (h : name ∉ base.map Prod.fst)
    (value : α) : put name value base = base ++ [(name, value)] := by
  induction base with
  | nil => rfl
  | cons m base ih =>
      obtain ⟨n, v⟩ := m
      rw [List.map_cons, List.mem_cons, not_or] at h
      rw [put, if_neg (Ne.symm h.1), ih h.2]
      rfl

theorem putAll_of_nodup {base : Members α} {added : List (String × α)}
    (h : ((base ++ added).map Prod.fst).Nodup) : putAll base added = base ++ added := by
  induction added generalizing base with
  | nil => rw [List.append_nil]; rfl
  | cons m added ih =>
      have hm : m.1 ∉ base.map Prod.fst := by
        rw [List.map_append, List.map_cons, List.nodup_middle, List.nodup_cons] at h
        exact fun hmem => h.1 (List.mem_append_left _ hmem)
      show putAll (put m.1 m.2 base) added = _
      rw [put_of_not_mem hm, ih (by rwa [List.append_assoc, List.singleton_append]),
        List.append_assoc, List.singleton_append]

/-- Where no name is repeated, the members are what is written. -/
theorem ofList_of_nodup {members : Members α} (h : (members.map Prod.fst).Nodup) :
    ofList members = members :=
  putAll_of_nodup h

/-- **Layers merge to one thing only.** -/
theorem Merges.unique {layers : List (Members α)} {merged : Members α}
    (hlayers : ∀ layer ∈ layers, (layer.map Prod.fst).Nodup) (h : Merges layers merged) :
    merged = layers.foldl Members.putAll [] := by
  have hfold := merges_foldl hlayers
  have hnodup : ((layers.foldl Members.putAll []).map Prod.fst).Nodup :=
    nodup_foldl (by simp) layers
  symm
  apply eq_of_get?_eq (hfold.names_eq.trans h.names_eq.symm) hnodup
  intro name
  rw [hfold.get?_eq, h.get?_eq]

/-! ## Names that are written more than once -/

/-- The names in the order in which they are first written. -/
def firstNames (written : List (String × α)) : List String :=
  (written.map Prod.fst).eraseDups

/-- The value is the last one that is written for the name. -/
def LastWritten (written : List (String × α)) (name : String) (value : α) : Prop :=
  ∃ before after, written = before ++ (name, value) :: after ∧ name ∉ after.map Prod.fst

theorem names_ofList (written : List (String × α)) :
    (ofList written).map Prod.fst = firstNames written := by
  have hnil : ([] : Members α).map Prod.fst = ([] : List String).eraseDups := rfl
  exact names_putAll hnil written

/-- Each name has one value at most, the one that is found. -/
theorem mem_iff_get? {members : Members α} (h : (members.map Prod.fst).Nodup) {name : String}
    {value : α} : (name, value) ∈ members ↔ members.get? name = some value := by
  induction members with
  | nil => simp [get?]
  | cons m members ih =>
      obtain ⟨n, v⟩ := m
      rw [List.map_cons, List.nodup_cons] at h
      rw [List.mem_cons, get?_cons]
      by_cases hname : name = n
      · subst hname
        have hmem : (name, value) ∉ members := fun hmem =>
          h.1 (List.mem_map.2 ⟨(name, value), hmem, rfl⟩)
        simp [hmem, eq_comm]
      · simp [hname, ih h.2]

/-- Members in another order have the same values. -/
theorem get?_eq_of_perm {members members' : Members α} (h : (members.map Prod.fst).Nodup)
    (hperm : members'.Perm members) (name : String) :
    members'.get? name = members.get? name := by
  have h' : (members'.map Prod.fst).Nodup := (hperm.map Prod.fst).nodup_iff.2 h
  apply Option.ext
  intro value
  rw [← mem_iff_get? h', hperm.mem_iff, mem_iff_get? h]

/-- What is written later is found first. -/
theorem get?_ofList (written : List (String × α)) (name : String) :
    (ofList written).get? name = get? written.reverse name := by
  induction written using List.reverseRecOn with
  | nil => rfl
  | append_singleton written m ih =>
      obtain ⟨n, v⟩ := m
      have hput : ofList (written ++ [(n, v)]) = put n v (ofList written) := List.foldl_append
      rw [hput, List.reverse_append, List.reverse_singleton, List.singleton_append, get?_cons, ← ih]
      by_cases hname : name = n
      · rw [if_pos hname, hname, get?_put_self]
      · rw [if_neg hname, get?_put_of_ne hname]

theorem get?_ofList_eq_some_iff {written : List (String × α)} {name : String} {value : α} :
    (ofList written).get? name = some value ↔ LastWritten written name value := by
  rw [get?_ofList, get?, List.lookup_eq_some_iff]
  constructor
  · rintro ⟨later, earlier, hwritten, hlater⟩
    refine ⟨earlier.reverse, later.reverse, ?_, fun hmem => ?_⟩
    · rw [← List.reverse_reverse written, hwritten, List.reverse_append, List.reverse_cons,
        List.append_assoc, List.singleton_append]
    · obtain ⟨m, hm, rfl⟩ := List.mem_map.1 hmem
      exact bne_iff_ne.1 (hlater m (List.mem_reverse.1 hm)) rfl
  · rintro ⟨before, after, rfl, hafter⟩
    refine ⟨after.reverse, before.reverse, ?_, fun m hm => bne_iff_ne.2 fun hname => ?_⟩
    · rw [List.reverse_append, List.reverse_cons, List.append_assoc, List.singleton_append]
    · exact hafter (List.mem_map.2 ⟨m, List.mem_reverse.1 hm, hname.symm⟩)

/-- **A member that is written has the last value written for its name.** -/
theorem mem_ofList_iff {written : List (String × α)} {name : String} {value : α} :
    (name, value) ∈ ofList written ↔ LastWritten written name value := by
  rw [mem_iff_get? (nodup_ofList written), get?_ofList_eq_some_iff]

theorem LastWritten.unique {written : List (String × α)} {name : String} {value value' : α}
    (h : LastWritten written name value) (h' : LastWritten written name value') :
    value = value' :=
  Option.some.inj ((get?_ofList_eq_some_iff.2 h).symm.trans (get?_ofList_eq_some_iff.2 h'))

/-- What holds of all members holds of the last values that are written. -/
theorem forall_mem_ofList_iff {written : List (String × α)} {P : String × α → Prop} :
    (∀ m ∈ ofList written, P m) ↔
      ∀ name value, LastWritten written name value → P (name, value) := by
  simp only [Prod.forall, mem_ofList_iff]

/-- What is said of a member can be said of its name and the last value. -/
theorem exists_lastWritten_iff {written : List (String × α)} {P : String × α → Prop}
    {m : String × α} (hm : m ∈ ofList written) :
    (∃ value, LastWritten written m.1 value ∧ P (m.1, value)) ↔ P m := by
  have hlast : LastWritten written m.1 m.2 := mem_ofList_iff.1 hm
  constructor
  · rintro ⟨value, hvalue, h⟩
    rwa [hvalue.unique hlast] at h
  · intro h
    exact ⟨m.2, hlast, h⟩

/-- What stands beside the members stands beside the names. -/
theorem forall₂_ofList_iff {β : Type} {written : List (String × α)} {R : String × α → β → Prop}
    {ys : List β} :
    List.Forall₂ R (ofList written) ys ↔
      List.Forall₂ (fun name y => ∃ value, LastWritten written name value ∧ R (name, value) y)
        (firstNames written) ys := by
  have hmem : ∀ m ∈ ofList written, m ∈ ofList written := fun _ hm => hm
  rw [← names_ofList, List.forall₂_map_left_iff]
  constructor
  · intro h
    have h' := (List.forall₂_and_left _ _).2 ⟨hmem, h⟩
    exact h'.imp fun m y h => (exists_lastWritten_iff (P := fun m => R m y) h.1).2 h.2
  · intro h
    have h' := (List.forall₂_and_left _ _).2 ⟨hmem, h⟩
    exact h'.imp fun m y h => (exists_lastWritten_iff (P := fun m => R m y) h.1).1 h.2

/-- The first member of a kind is the first name of that kind. -/
theorem exists_split_ofList_iff {written : List (String × α)} {P Q : String × α → Prop} :
    (∃ before m after, ofList written = before ++ m :: after ∧ (∀ n ∈ before, P n) ∧ Q m) ↔
      ∃ before name after value, firstNames written = before ++ name :: after ∧
        (∀ n ∈ before, ∃ v, LastWritten written n v ∧ P (n, v)) ∧
        LastWritten written name value ∧ Q (name, value) := by
  rw [← names_ofList]
  constructor
  · rintro ⟨before, m, after, hsplit, hbefore, hm⟩
    have hmem : ∀ n ∈ before ++ m :: after, n ∈ ofList written := fun n hn => by rwa [hsplit]
    obtain ⟨value, hvalue, hQ⟩ :=
      (exists_lastWritten_iff (hmem m (List.mem_append_right _ List.mem_cons_self))).2 hm
    refine ⟨before.map Prod.fst, m.1, after.map Prod.fst, value, ?_, ?_, hvalue, hQ⟩
    · rw [hsplit, List.map_append, List.map_cons]
    · rw [List.forall_mem_map]
      intro n hn
      exact (exists_lastWritten_iff (hmem n (List.mem_append_left _ hn))).2 (hbefore n hn)
  · rintro ⟨names, name, names', value, hsplit, hnames, hvalue, hQ⟩
    obtain ⟨before, rest, hrest, rfl, hrest'⟩ := List.map_eq_append_iff.1 hsplit
    obtain ⟨m, after, rfl, rfl, rfl⟩ := List.map_eq_cons_iff.1 hrest'
    have hmem : ∀ n ∈ before ++ m :: after, n ∈ ofList written := fun n hn => by rwa [hrest]
    rw [List.forall_mem_map] at hnames
    refine ⟨before, m, after, hrest, fun n hn => ?_, ?_⟩
    · exact (exists_lastWritten_iff (hmem n (List.mem_append_left _ hn))).1 (hnames n hn)
    · have hm := hmem m (List.mem_append_right _ List.mem_cons_self)
      exact (exists_lastWritten_iff hm).1 ⟨value, hvalue, hQ⟩

end Members

end KeyChord
