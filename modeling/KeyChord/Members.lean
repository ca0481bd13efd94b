/-!
# Named members

An ordered list of members, each with a name of its own. A name that is put again keeps its place
and takes the new value.
-/

namespace KeyChord

/-- Values by name, in the order in which the names first came. -/
abbrev Members (α : Type) := List (String × α)

namespace Members

variable {α : Type}

/-- Gives `name` a value: in place if the name is there, at the end if it is not. -/
def put (name : String) (value : α) : Members α → Members α
  | [] => [(name, value)]
  | (n, v) :: rest => if n = name then (n, value) :: rest else (n, v) :: put name value rest

/-- Puts every member of `added`, in order. -/
def putAll (base : Members α) (added : List (String × α)) : Members α :=
  added.foldl (fun members m => put m.1 m.2 members) base

/-- The members of a list in which names may be repeated: first place, last value. -/
def ofList (written : List (String × α)) : Members α :=
  putAll [] written

/-- The value of a name. -/
def get? (members : Members α) (name : String) : Option α :=
  members.lookup name

/-- What was put is found. -/
@[simp] theorem get?_put_self (name : String) (value : α) (members : Members α) :
    (put name value members).get? name = some value := by
  unfold get?
  induction members with
  | nil => simp [put]
  | cons m rest ih =>
    obtain ⟨n, v⟩ := m
    by_cases h : n = name
    · simp [put, h]
    · have h' : (name == n) = false := by simpa [beq_eq_false_iff_ne] using Ne.symm h
      simp [put, h, List.lookup_cons, h', ih]

/-- Other names keep their values. -/
theorem get?_put_of_ne {name other : String} (h : other ≠ name) (value : α)
    (members : Members α) : (put name value members).get? other = members.get? other := by
  unfold get?
  induction members with
  | nil => simp [put, List.lookup_cons, beq_eq_false_iff_ne.2 h]
  | cons m rest ih =>
    obtain ⟨n, v⟩ := m
    by_cases hn : n = name
    · subst hn
      simp [put, List.lookup_cons, beq_eq_false_iff_ne.2 h]
    · simp [put, hn, List.lookup_cons, ih]

/-- Putting a name that is there changes no name and no place. -/
theorem names_put_of_mem {name : String} (value : α) {members : Members α}
    (h : name ∈ members.map Prod.fst) :
    (put name value members).map Prod.fst = members.map Prod.fst := by
  induction members with
  | nil => simp at h
  | cons m rest ih =>
    obtain ⟨n, v⟩ := m
    by_cases hn : n = name
    · simp [put, hn]
    · have : name ∈ rest.map Prod.fst := by
        simp only [List.map_cons, List.mem_cons] at h
        rcases h with h | h
        · exact absurd h.symm hn
        · exact h
      simp only [put, hn, if_false, List.map_cons, ih this]

/-- Putting a new name adds it at the end. -/
theorem names_put_of_not_mem {name : String} (value : α) {members : Members α}
    (h : name ∉ members.map Prod.fst) :
    (put name value members).map Prod.fst = members.map Prod.fst ++ [name] := by
  induction members with
  | nil => simp [put]
  | cons m rest ih =>
    obtain ⟨n, v⟩ := m
    simp only [List.map_cons, List.mem_cons, not_or] at h
    have hn : ¬ n = name := fun e => h.1 e.symm
    simp only [put, hn, if_false, List.map_cons, ih h.2, List.cons_append]

end Members

end KeyChord
