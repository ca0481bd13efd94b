import KeyChord.Device.Listing
import KeyChord.Proofs.Text.Lines
import KeyChord.Proofs.Text.Words

/-!
# Listings as they are written

The display server's program writes the number of each device on a line, and the properties of a
device one per line, after a line with the title of the device. Here these listings are written from
the data that they list, and what is looked up in them is that data.

A property is looked up by what its line starts with once its blanks are gone. So a name finds its
own line as long as no other name, blanks at its front aside, starts with it; and the names that are
looked up cannot be mistaken for the rest of a line (`Sought`).

* `Property.line`, `listing`: a property on its line, and a device with its properties.
* `valueOnLine?_line`, `valueOnLine?_line_eq_none`: what is found on a line.
* `Lists`, `Omits`: the properties have just one of a name, or none.
* `property?_of_lists`, `property?_of_omits`: **what is looked up in a listing.**
* `enabled?_of_lists`, `node?_of_lists`, `node?_of_omits`: the state and the node of a device.
* `ids_unlines`, `idOnLine?_toDigits`: the numbers of the devices.
-/

namespace KeyChord.Device

open Text

/-- A property of a device. -/
structure Property where
  name : List Char
  id : Nat
  value : List Char
  deriving DecidableEq, Repr

/-- A property on its line: a tab, the name, the number in parentheses, a colon, a tab and the
value. -/
def Property.line (q : Property) : List Char :=
  '\t' :: (q.name ++ ' ' :: '(' :: (Nat.toDigits 10 q.id ++ ')' :: ':' :: '\t' :: q.value))

/-- The line above the properties, with the name of the device in quotes. -/
def titleLine (title : List Char) : List Char :=
  "Device '".toList ++ (title ++ ['\'', ':'])

/-- The listing of a device: its title, if one is written, and its properties. -/
def listing (title : Option (List Char)) (properties : List Property) : List Char :=
  unlines (title.toList.map titleLine ++ properties.map Property.line)

/-- A name that can be looked up: it does not begin or end with a blank, and it cannot be mistaken
for the number of a property or for the title of a device. -/
structure Sought (name : List Char) : Prop where
  first : ∃ c rest, name = c :: rest ∧ isBlank c = false
  last : name.getLast? ≠ some ' '
  noNumber : '(' ∉ name
  noTitle : ∀ rest, ¬ name <+: "Device '".toList ++ rest

theorem sought_enabledProperty : Sought enabledProperty.toList where
  first := ⟨'D', "evice Enabled".toList, rfl, by decide⟩
  last := by simp [enabledProperty]
  noNumber := by simp [enabledProperty]
  noTitle rest := by simp [enabledProperty]

theorem sought_nodeProperty : Sought nodeProperty.toList where
  first := ⟨'D', "evice Node".toList, rfl, by decide⟩
  last := by simp [nodeProperty]
  noNumber := by simp [nodeProperty]
  noTitle rest := by simp [nodeProperty]

/-! ## One line -/

theorem isPrefixOf?_append (name rest : List Char) :
    List.isPrefixOf? name (name ++ rest) = some rest :=
  List.isPrefixOf?_eq_some_iff_append_eq.2 rfl

theorem isPrefixOf?_eq_none {name line : List Char} (h : ¬ name <+: line) :
    List.isPrefixOf? name line = none := by
  cases hrest : List.isPrefixOf? name line with
  | none => rfl
  | some rest => exact absurd ⟨rest, List.isPrefixOf?_eq_some_iff_append_eq.1 hrest⟩ h

/-- What follows a name up to the first colon does not matter, and what follows the colon is the
value. -/
theorem valueOnLine?_of_trim_eq {name front after line : List Char}
    (htrim : trim line = name ++ (front ++ ':' :: after)) (hfront : ':' ∉ front) :
    valueOnLine? name line = some (trim after) := by
  unfold valueOnLine?
  rw [htrim, isPrefixOf?_append]
  simp only [Option.bind_eq_bind, Option.bind_some, cutAt?_append hfront, Option.pure_def]

/-- What is left of a property's line once its blanks are gone. -/
theorem trim_line {q : Property} (hfirst : ∃ c rest, q.name = c :: rest ∧ isBlank c = false) :
    trim q.line = q.name ++ ((' ' :: '(' :: (Nat.toDigits 10 q.id ++ [')'])) ++
      ':' :: dropEndWhile isBlank ('\t' :: q.value)) := by
  obtain ⟨c, rest, hname, hc⟩ := hfirst
  have hstart : trimStart q.line =
      (q.name ++ ' ' :: '(' :: (Nat.toDigits 10 q.id ++ [')'])) ++ ':' :: '\t' :: q.value := by
    unfold Property.line trimStart
    rw [List.dropWhile_cons_of_pos (by decide), hname, List.cons_append,
      List.dropWhile_cons_of_neg (by rw [hc]; exact Bool.false_ne_true)]
    simp
  unfold trim
  rw [hstart, dropEndWhile_append_cons (by decide), List.append_assoc]

/-- A name on the line of a property whose name starts with it. The colon after the number is the
first one behind the name that is looked up. -/
theorem valueOnLine?_line_append {name more : List Char}
    (hfirst : ∃ c rest, name = c :: rest ∧ isBlank c = false) (hmore : ':' ∉ more) (id : Nat)
    (value : List Char) :
    valueOnLine? name (Property.line ⟨name ++ more, id, value⟩) = some (trim value) := by
  obtain ⟨c, rest, rfl, hc⟩ := hfirst
  have hbefore : ':' ∉ more ++ ' ' :: '(' :: (Nat.toDigits 10 id ++ [')']) := by
    have hdigit : ':' ∉ Nat.toDigits 10 id := not_mem_toDigits rfl id
    simp [hdigit, hmore]
  have hline := trim_line (q := ⟨c :: rest ++ more, id, value⟩) ⟨c, rest ++ more, rfl, hc⟩
  dsimp only at hline
  rw [List.append_assoc, ← List.append_assoc more] at hline
  rw [valueOnLine?_of_trim_eq hline hbefore, trim_dropEndWhile, trim_cons_of_pos (by decide)]

/-- A name on its own line. -/
theorem valueOnLine?_line {name : List Char} (h : Sought name) (id : Nat) (value : List Char) :
    valueOnLine? name (Property.line ⟨name, id, value⟩) = some (trim value) := by
  have hline := valueOnLine?_line_append h.first (List.not_mem_nil (a := ':')) id value
  rwa [List.append_nil] at hline

/-- The number of a property can be no part of a name that is looked up. -/
theorem prefix_of_prefix_append {name front rest : List Char} (hlast : name.getLast? ≠ some ' ')
    (hnumber : ¬ [' ', '('] <:+: name) (hstarts : name <+: front ++ ' ' :: '(' :: rest) :
    name <+: front := by
  rcases List.prefix_or_prefix_of_prefix hstarts (List.prefix_append front _) with hshort | hlong
  · exact hshort
  obtain ⟨tail, rfl⟩ := hlong
  have htail : tail <+: ' ' :: '(' :: rest := (List.prefix_append_right_inj front).1 hstarts
  match tail, htail with
  | [], _ => exact ⟨[], by rw [List.append_nil, List.append_nil]⟩
  | [c], htail =>
      obtain ⟨rfl, -⟩ := List.cons_prefix_cons.1 htail
      exact absurd (by simp) hlast
  | c :: d :: tail, htail =>
      obtain ⟨hspace, htail⟩ := List.cons_prefix_cons.1 htail
      obtain ⟨hopen, -⟩ := List.cons_prefix_cons.1 htail
      exact absurd ⟨front, tail, by rw [hspace, hopen]; simp⟩ hnumber

/-- What is looked up must stand at the front of what is left without blanks. -/
theorem valueOnLine?_eq_none {name line : List Char} (h : ¬ name <+: trimStart line) :
    valueOnLine? name line = none := by
  have htrim : ¬ name <+: trim line := fun hstarts =>
    h (hstarts.trans (prefix_of_dropEndWhile isBlank (trimStart line)))
  unfold valueOnLine?
  rw [isPrefixOf?_eq_none htrim]
  rfl

/-- A name on the line of another property. -/
theorem valueOnLine?_line_eq_none {name : List Char} (h : Sought name) {q : Property}
    (hq : ¬ name <+: trimStart q.name) : valueOnLine? name q.line = none := by
  refine valueOnLine?_eq_none fun hstarts => ?_
  unfold Property.line trimStart at hstarts
  rw [List.dropWhile_cons_of_pos (by decide), List.dropWhile_append] at hstarts
  split at hstarts
  · -- no name is left, so the number of the property comes first
    rw [List.dropWhile_cons_of_pos (by decide), List.dropWhile_cons_of_neg (by decide)] at hstarts
    obtain ⟨c, rest, rfl, -⟩ := h.first
    obtain ⟨rfl, -⟩ := List.cons_prefix_cons.1 hstarts
    exact h.noNumber List.mem_cons_self
  · have hnumber : ¬ [' ', '('] <:+: name := fun hwithin => h.noNumber (hwithin.subset (by simp))
    exact hq (prefix_of_prefix_append h.last hnumber hstarts)

/-- A name on the line above the properties. -/
theorem valueOnLine?_titleLine {name : List Char}
    (h : ∀ rest, ¬ name <+: "Device '".toList ++ rest) (title : List Char) :
    valueOnLine? name (titleLine title) = none := by
  have hstart : trimStart (titleLine title) = titleLine title :=
    List.dropWhile_cons_of_neg (by decide)
  refine valueOnLine?_eq_none fun hstarts => ?_
  rw [hstart] at hstarts
  exact h _ hstarts

/-! ## A listing -/

/-- The title and the properties can be written on one line each. -/
def OnLines (title : Option (List Char)) (properties : List Property) : Prop :=
  (∀ text ∈ title, '\n' ∉ text) ∧ ∀ q ∈ properties, '\n' ∉ q.name ∧ '\n' ∉ q.value

/-- Just one of the properties has this name, with this value, and no other name starts with it,
blanks at the front aside. -/
def Lists (properties : List Property) (name value : List Char) : Prop :=
  ∃ before id after, properties = before ++ ⟨name, id, value⟩ :: after ∧
    ∀ q ∈ before ++ after, ¬ name <+: trimStart q.name

/-- None of the properties has a name that starts with this, blanks at the front aside. -/
def Omits (properties : List Property) (name : List Char) : Prop :=
  ∀ q ∈ properties, ¬ name <+: trimStart q.name

theorem not_mem_line {q : Property} (hname : '\n' ∉ q.name) (hvalue : '\n' ∉ q.value) :
    '\n' ∉ q.line := by
  have hdigits : '\n' ∉ Nat.toDigits 10 q.id := not_mem_toDigits rfl q.id
  simp [Property.line, hname, hvalue, hdigits]

theorem not_mem_titleLine {title : List Char} (h : '\n' ∉ title) : '\n' ∉ titleLine title := by
  have hfront : '\n' ∉ "Device '".toList := by decide
  have hback : '\n' ∉ ['\'', ':'] := by decide
  exact fun hmem => (List.mem_append.1 hmem).elim hfront fun hmem =>
    (List.mem_append.1 hmem).elim h hback

theorem OnLines.not_mem {title : Option (List Char)} {properties : List Property}
    (h : OnLines title properties) :
    ∀ l ∈ title.toList.map titleLine ++ properties.map Property.line, '\n' ∉ l := by
  intro l hl
  rcases List.mem_append.1 hl with hl | hl
  · obtain ⟨text, htext, rfl⟩ := List.mem_map.1 hl
    exact not_mem_titleLine (h.1 text (Option.mem_toList.1 htext))
  · obtain ⟨q, hq, rfl⟩ := List.mem_map.1 hl
    exact not_mem_line (h.2 q hq).1 (h.2 q hq).2

theorem valueOnLine?_dropReturn (name line : List Char) :
    valueOnLine? name (dropReturn line) = valueOnLine? name line := by
  unfold valueOnLine?
  rw [trim_dropReturn]

/-- A name is looked up line by line. -/
theorem property?_unlines {ls : List (List Char)} (h : ∀ l ∈ ls, '\n' ∉ l) (name : List Char) :
    property? (unlines ls) name = ls.findSome? (valueOnLine? name) := by
  have hreturns : valueOnLine? name ∘ dropReturn = valueOnLine? name :=
    funext (valueOnLine?_dropReturn name)
  unfold property?
  rw [lines_unlines h, List.findSome?_map, hreturns]

/-- A name is looked up on the lines of the properties. -/
theorem property?_listing {title : Option (List Char)} {properties : List Property}
    (h : OnLines title properties) {name : List Char}
    (hname : ∀ rest, ¬ name <+: "Device '".toList ++ rest) :
    property? (listing title properties) name =
      properties.findSome? fun q => valueOnLine? name q.line := by
  have htitle : (title.toList.map titleLine).findSome? (valueOnLine? name) = none := by
    refine List.findSome?_eq_none_iff.2 fun l hl => ?_
    obtain ⟨text, -, rfl⟩ := List.mem_map.1 hl
    exact valueOnLine?_titleLine hname text
  calc property? (listing title properties) name
      = (title.toList.map titleLine ++ properties.map Property.line).findSome?
          (valueOnLine? name) := property?_unlines h.not_mem name
    _ = (properties.map Property.line).findSome? (valueOnLine? name) := by
        rw [List.findSome?_append, htitle, Option.none_or]
    _ = properties.findSome? fun q => valueOnLine? name q.line := List.findSome?_map

/-- **A name that is listed once is found.** -/
theorem property?_of_lists {title : Option (List Char)} {properties : List Property}
    (h : OnLines title properties) {name value : List Char} (hname : Sought name)
    (hlists : Lists properties name value) :
    property? (listing title properties) name = some (trim value) := by
  rw [property?_listing h hname.noTitle]
  obtain ⟨before, id, after, rfl, hothers⟩ := hlists
  have hbefore : (before.findSome? fun q => valueOnLine? name q.line) = none :=
    List.findSome?_eq_none_iff.2 fun q hq =>
      valueOnLine?_line_eq_none hname (hothers q (List.mem_append_left _ hq))
  rw [List.findSome?_append, hbefore, Option.none_or, List.findSome?_cons,
    valueOnLine?_line hname]

/-- **A name that is not listed is not found.** -/
theorem property?_of_omits {title : Option (List Char)} {properties : List Property}
    (h : OnLines title properties) {name : List Char} (hname : Sought name)
    (homits : Omits properties name) : property? (listing title properties) name = none := by
  rw [property?_listing h hname.noTitle]
  exact List.findSome?_eq_none_iff.2 fun q hq => valueOnLine?_line_eq_none hname (homits q hq)

/-! ## State, node and numbers -/

/-- The value that says whether a device is enabled. -/
def flag (enabled : Bool) : List Char :=
  if enabled then ['1'] else ['0']

/-- The value that names a node. -/
def quoted (node : List Char) : List Char :=
  '"' :: (node ++ ['"'])

/-- A node that can be told from its quoted form. -/
structure Quotable (node : List Char) : Prop where
  nonempty : node ≠ []
  oneLine : '\n' ∉ node
  first : node.head? ≠ some '"'
  last : node.getLast? ≠ some '"'

/-- The quotes around a node are dropped and no more. -/
theorem Quotable.unquoted {node : List Char} (h : Quotable node) :
    dropEndWhile (· = '"') ((quoted node).dropWhile (· = '"')) = node := by
  have hfront : (quoted node).dropWhile (· = '"') = node ++ ['"'] := by
    obtain ⟨c, rest, rfl⟩ := List.exists_cons_of_ne_nil h.nonempty
    have hc : c ≠ '"' := fun heq => h.first (congrArg some heq)
    unfold quoted
    rw [List.dropWhile_cons_of_pos (by simp), List.cons_append,
      List.dropWhile_cons_of_neg (by simpa using hc)]
  rw [hfront, dropEndWhile_concat_of_pos (by simp)]
  obtain ⟨front, c, rfl⟩ := List.eq_nil_or_concat' node |>.resolve_left h.nonempty
  have hc : c ≠ '"' := fun heq => h.last (by rw [List.getLast?_concat, heq])
  exact dropEndWhile_concat_of_neg (by simpa using hc) front

theorem enabled?_of_lists {title : Option (List Char)} {properties : List Property}
    (h : OnLines title properties) {enabled : Bool}
    (hlists : Lists properties enabledProperty.toList (flag enabled)) :
    enabled? (listing title properties) = some enabled := by
  unfold enabled?
  rw [property?_of_lists h sought_enabledProperty hlists]
  cases enabled <;> rfl

theorem node?_of_lists {title : Option (List Char)} {properties : List Property}
    (h : OnLines title properties) {node : List Char} (hnode : Quotable node)
    (hlists : Lists properties nodeProperty.toList (quoted node)) :
    node? (listing title properties) = some node := by
  have htrim : trim (quoted node) = quoted node := by
    refine trim_eq_self (fun c hc => ?_) fun c hc => ?_
    · obtain rfl := Option.some.inj hc
      rfl
    · unfold quoted at hc
      rw [← List.cons_append, List.getLast?_concat] at hc
      obtain rfl := Option.some.inj hc
      rfl
  have hpath := hnode.unquoted
  unfold node?
  rw [property?_of_lists h sought_nodeProperty hlists, htrim]
  simp only [Option.bind_some, hpath, if_neg hnode.nonempty]

theorem node?_of_omits {title : Option (List Char)} {properties : List Property}
    (h : OnLines title properties) (homits : Omits properties nodeProperty.toList) :
    node? (listing title properties) = none := by
  unfold node?
  rw [property?_of_omits h sought_nodeProperty homits]
  rfl

/-! ## Numbers of devices -/

/-- The number on a line, if the line holds one. -/
def idOnLine? (line : List Char) : Option UInt32 :=
  (unsigned? UInt32.size (trim line)).map Nat.toUInt32

/-- The numbers in a list are read line by line. -/
theorem ids_unlines {ls : List (List Char)} (h : ∀ l ∈ ls, '\n' ∉ l) :
    ids (unlines ls) = ls.filterMap idOnLine? := by
  have hreturns : idOnLine? ∘ dropReturn = idOnLine? :=
    funext fun line => by rw [Function.comp_apply, idOnLine?, trim_dropReturn, idOnLine?]
  calc ids (unlines ls) = (ls.map dropReturn).filterMap idOnLine? := by
        rw [← lines_unlines h]
        rfl
    _ = ls.filterMap idOnLine? := by rw [List.filterMap_map, hreturns]

/-- The number of a device is read off its line. -/
theorem idOnLine?_toDigits (xid : UInt32) :
    idOnLine? (Nat.toDigits 10 xid.toNat) = some xid := by
  have hblank : ∀ c ∈ Nat.toDigits 10 xid.toNat, isBlank c = false := fun c hc =>
    isBlank_of_isDigit (isDigit_of_mem_toDigits hc)
  have htrim : trim (Nat.toDigits 10 xid.toNat) = Nat.toDigits 10 xid.toNat :=
    trim_eq_self (fun c hc => hblank c (List.mem_of_mem_head? hc))
      fun c hc => hblank c (List.mem_of_getLast? hc)
  unfold idOnLine?
  rw [htrim, unsigned?_toDigits xid.toNat_lt, Option.map_some]
  exact congrArg some UInt32.ofNat_toNat

/-- A line that spells no number is passed by. -/
theorem idOnLine?_eq_none {line : List Char} (h : ¬ Numeral (trim line)) :
    idOnLine? line = none := by
  unfold idOnLine?
  rw [unsigned?_eq_none h]
  rfl

end KeyChord.Device
