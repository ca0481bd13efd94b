import KeyChord.Proofs.Device.Listing
import Mathlib.Data.List.Infix

/-!
# Looking up any property

The program looks up two properties only, but it could look up any: what is found for a name is the
value of the first property whose name starts with it. This is the property of just that name unless
one with a longer name is listed before it. Where properties share the front of their names, the
order of the listing decides.

A name can be found on the line of the title too. This is so for the front of the word `Device`, for
which it is then no property that is found.

* `IsName`, `Property.Printable`: names and values that can be told from the rest of a line.
* `valueOnLine?_of_printable`, `valueOnLine?_titleLine_of_word`: what is found on the line of a
  property and on that of the title.
* `property?_eq_ite`: what is found in a listing.
* `lookup_first_starting`: **the first property whose name starts with a name is found for it.**
* `lookup_not_exact`: so a name can find another property than its own.
-/

namespace KeyChord.Device

open Text

/-- No blank stands at either end of a text. -/
structure Unpadded (s : List Char) : Prop where
  first : ∀ c ∈ s.head?, isBlank c = false
  last : ∀ c ∈ s.getLast?, isBlank c = false

/-- A name that a property can have: it stands on one line and ends before the number does. -/
structure IsName (name : List Char) : Prop where
  nonempty : name ≠ []
  oneLine : '\n' ∉ name
  noColon : ':' ∉ name
  noNumber : ¬ [' ', '('] <:+: name
  unpadded : Unpadded name

/-- A property that can be printed on a line and read off it. -/
structure Property.Printable (q : Property) : Prop where
  name : IsName q.name
  oneLine : '\n' ∉ q.value
  unpadded : Unpadded q.value

instance (s : List Char) : Decidable (Unpadded s) :=
  decidable_of_iff (NoBlank s.head?.toList ∧ NoBlank s.getLast?.toList)
    ⟨fun ⟨hfirst, hlast⟩ => ⟨fun c hc => hfirst c (Option.mem_toList.2 hc),
        fun c hc => hlast c (Option.mem_toList.2 hc)⟩,
      fun h => ⟨fun c hc => h.first c (Option.mem_toList.1 hc),
        fun c hc => h.last c (Option.mem_toList.1 hc)⟩⟩

instance (name : List Char) : Decidable (IsName name) :=
  decidable_of_iff (name ≠ [] ∧ '\n' ∉ name ∧ ':' ∉ name ∧ ¬ [' ', '('] <:+: name ∧ Unpadded name)
    ⟨fun ⟨hne, hline, hcolon, hnumber, hends⟩ => ⟨hne, hline, hcolon, hnumber, hends⟩,
      fun h => ⟨h.nonempty, h.oneLine, h.noColon, h.noNumber, h.unpadded⟩⟩

instance (q : Property) : Decidable q.Printable :=
  decidable_of_iff (IsName q.name ∧ '\n' ∉ q.value ∧ Unpadded q.value)
    ⟨fun ⟨hname, hline, hends⟩ => ⟨hname, hline, hends⟩,
      fun h => ⟨h.name, h.oneLine, h.unpadded⟩⟩

theorem Unpadded.trim_eq {s : List Char} (h : Unpadded s) : trim s = s :=
  trim_eq_self h.first h.last

theorem IsName.exists_cons {name : List Char} (h : IsName name) :
    ∃ c rest, name = c :: rest ∧ isBlank c = false := by
  obtain ⟨c, rest, rfl⟩ := List.exists_cons_of_ne_nil h.nonempty
  exact ⟨c, rest, rfl, h.unpadded.first c rfl⟩

theorem IsName.getLast?_ne {name : List Char} (h : IsName name) : name.getLast? ≠ some ' ' :=
  fun hlast => absurd (h.unpadded.last ' ' hlast) (by decide)

/-- The front of a title that can be a name is the front of its first word. -/
theorem IsName.not_prefix_title {name : List Char} (h : IsName name)
    (htitle : ¬ "Device '".toList <+: name) (hword : ¬ name <+: "Device".toList)
    (rest : List Char) : ¬ name <+: "Device '".toList ++ rest := by
  intro hstarts
  rcases List.prefix_or_prefix_of_prefix hstarts (List.prefix_append _ rest) with hshort | hlong
  · have hsplit : "Device '".toList = ("Device".toList ++ [' ']) ++ ['\''] := by decide
    rw [hsplit] at hshort htitle
    rcases List.prefix_concat_iff.1 hshort with rfl | hshort
    · exact htitle List.prefix_rfl
    rcases List.prefix_concat_iff.1 hshort with rfl | hshort
    · exact h.getLast?_ne List.getLast?_concat
    · exact hword hshort
  · exact htitle hlong

/-! ## What is found -/

variable {title name : List Char} {properties : List Property}

/-- A property is found for the names that its own starts with. -/
theorem valueOnLine?_of_printable {q : Property} (hq : q.Printable) (hname : IsName name) :
    valueOnLine? name q.line = if name <+: q.name then some q.value else none := by
  split
  · next hstarts =>
      obtain ⟨more, hmore⟩ := hstarts
      have hcolon : ':' ∉ more := fun hmem =>
        hq.name.noColon (hmore ▸ List.mem_append_right name hmem)
      have hline := valueOnLine?_line_append hname.exists_cons hcolon q.id q.value
      rw [hmore] at hline
      rw [← hq.unpadded.trim_eq]
      exact hline
  · next hno =>
      obtain ⟨c, rest, hcons, hc⟩ := hq.name.exists_cons
      have hstart : trimStart q.line =
          q.name ++ ' ' :: '(' :: (Nat.toDigits 10 q.id ++ ')' :: ':' :: '\t' :: q.value) := by
        unfold Property.line trimStart
        rw [List.dropWhile_cons_of_pos (by decide), hcons, List.cons_append,
          List.dropWhile_cons_of_neg (by rw [hc]; exact Bool.false_ne_true)]
      refine valueOnLine?_eq_none fun hstarts => hno ?_
      rw [hstart] at hstarts
      exact prefix_of_prefix_append hname.getLast?_ne hname.noNumber hstarts

/-- What stands on the line of a title behind the first colon: the rest of the title and what closes
it. -/
def valueOfTitle (title : List Char) : List Char :=
  match cutAt? ':' title with
  | some (_, after) => trim (after ++ ['\'', ':'])
  | none => []

theorem trim_titleLine (title : List Char) : trim (titleLine title) = titleLine title := by
  refine trim_eq_self (fun c hc => ?_) fun c hc => ?_
  · obtain rfl := Option.some.inj hc
    decide
  · unfold titleLine at hc
    rw [List.getLast?_append_of_ne_nil _ (by simp), List.getLast?_append_of_ne_nil _ (by simp)]
      at hc
    obtain rfl := Option.some.inj hc
    decide

/-- The front of the word `Device` is found in every title. -/
theorem valueOnLine?_titleLine_of_word (hword : name <+: "Device".toList) (title : List Char) :
    valueOnLine? name (titleLine title) = some (valueOfTitle title) := by
  obtain ⟨more, hmore⟩ := hword
  have hnoColon : ':' ∉ more := fun hmem =>
    absurd (hmore ▸ List.mem_append_right name hmem : ':' ∈ "Device".toList) (by decide)
  have hsplit : "Device '".toList = "Device".toList ++ [' ', '\''] := by decide
  have hline : trim (titleLine title) =
      name ++ (more ++ [' ', '\''] ++ (title ++ ['\'', ':'])) := by
    rw [trim_titleLine]
    unfold titleLine
    rw [hsplit, ← hmore]
    simp only [List.append_assoc]
  unfold valueOfTitle
  by_cases hcolon : ':' ∈ title
  · obtain ⟨before, after, rfl, hbefore⟩ := List.eq_append_cons_of_mem hcolon
    have hrest : more ++ [' ', '\''] ++ (before ++ ':' :: after ++ ['\'', ':']) =
        (more ++ [' ', '\''] ++ before) ++ ':' :: (after ++ ['\'', ':']) := by
      simp only [List.append_assoc, List.cons_append]
    rw [hrest] at hline
    rw [cutAt?_append hbefore]
    exact valueOnLine?_of_trim_eq hline (by simp [hnoColon, hbefore])
  · have hrest : more ++ [' ', '\''] ++ (title ++ ['\'', ':']) =
        (more ++ [' ', '\''] ++ title ++ ['\'']) ++ ':' :: [] := by
      simp only [List.append_assoc, List.cons_append, List.nil_append]
    rw [hrest] at hline
    rw [cutAt?_eq_none hcolon]
    exact valueOnLine?_of_trim_eq hline (by simp [hnoColon, hcolon])

/-- The first property whose name starts with a name is the first one that has a value for it. -/
theorem findSome?_line (h : ∀ q ∈ properties, q.Printable) (hname : IsName name) :
    (properties.findSome? fun q => valueOnLine? name q.line) =
      (properties.find? fun q => name <+: q.name).map Property.value := by
  induction properties with
  | nil => rfl
  | cons q properties ih =>
      obtain ⟨hq, h⟩ := List.forall_mem_cons.1 h
      rw [List.findSome?_cons, valueOnLine?_of_printable hq hname, List.find?_cons]
      by_cases hstarts : name <+: q.name
      · rw [if_pos hstarts, decide_eq_true hstarts]
        rfl
      · rw [if_neg hstarts, decide_eq_false hstarts]
        exact ih h

/-- **The first property whose name starts with a name is found for it**, unless the title is. -/
theorem property?_eq_ite (htitle : '\n' ∉ title) (h : ∀ q ∈ properties, q.Printable)
    (hname : IsName name) (hnoTitle : ¬ "Device '".toList <+: name) :
    property? (listing (some title) properties) name =
      if name <+: "Device".toList then some (valueOfTitle title)
      else (properties.find? fun q => name <+: q.name).map Property.value := by
  have hlines : OnLines (some title) properties :=
    ⟨fun text htext => Option.some.inj htext ▸ htitle,
      fun q hq => ⟨(h q hq).name.oneLine, (h q hq).oneLine⟩⟩
  split
  · next hword =>
      unfold listing
      rw [property?_unlines hlines.not_mem, Option.toList_some, List.map_singleton,
        List.singleton_append, List.findSome?_cons, valueOnLine?_titleLine_of_word hword]
  · next hword =>
      rw [property?_listing hlines (hname.not_prefix_title hnoTitle hword), findSome?_line h hname]

/-- **A look-up goes by the front of the names.** What is found for a name is the value of the first
property whose name starts with it. So a property is found by its own name unless another name that
starts with it is listed before, and nothing is found exactly if no name starts with it. The word
`Device` at the front of the title counts as a name here, the first one. -/
theorem lookup_first_starting (htitle : '\n' ∉ title) (h : ∀ q ∈ properties, q.Printable)
    (hname : IsName name) (hnoTitle : ¬ "Device '".toList <+: name) :
    property? (listing (some title) properties) name =
        (if name <+: "Device".toList then some (valueOfTitle title)
        else (properties.find? fun q => name <+: q.name).map Property.value) ∧
      (¬ name <+: "Device".toList → ∀ before q after, properties = before ++ q :: after →
        q.name = name → (∀ p ∈ before, ¬ name <+: p.name) →
        property? (listing (some title) properties) name = some q.value) ∧
      (property? (listing (some title) properties) name = none ↔
        ¬ name <+: "Device".toList ∧ ∀ q ∈ properties, ¬ name <+: q.name) := by
  have hfind := property?_eq_ite htitle h hname hnoTitle
  refine ⟨hfind, fun hword before q after hsplit hown hbefore => ?_, ?_⟩
  · have hfirst : properties.find? (fun q => name <+: q.name) = some q := by
      rw [List.find?_eq_some_iff_append]
      refine ⟨decide_eq_true (hown ▸ List.prefix_rfl), before, after, hsplit, fun p hp => ?_⟩
      rw [decide_eq_false (hbefore p hp)]
      rfl
    rw [hfind, if_neg hword, hfirst]
    rfl
  · rw [hfind]
    split
    · next hword => exact ⟨nofun, fun hnone => absurd hword hnone.1⟩
    · next hword =>
        rw [Option.map_eq_none_iff, List.find?_eq_none]
        simp only [decide_eq_true_eq, hword, not_false_eq_true, true_and]

/-- The property of this name is listed before the one of the longer name, and its value holds
colons; the property of the longer name has no value. The title holds a colon as well, so there is a
rest of it to be found for the front of its first word. -/
theorem lookup_first_starting_accel_speed :
    let name := "libinput Accel Speed".toList
    let node : Property := ⟨nodeProperty.toList, 266, "\"/dev/input/event7\"".toList⟩
    let speed : Property := ⟨name, 283, "slow (1): 2:3".toList⟩
    let standard : Property := ⟨"libinput Accel Speed Default".toList, 284, []⟩
    let title := "a:b': '".toList
    let word := "Dev".toList
    '\n' ∉ title ∧ (∀ q ∈ [node, speed, standard], q.Printable) ∧
      (∀ n ∈ [name, word], IsName n ∧ ¬ "Device '".toList <+: n) ∧
      ¬ name <+: "Device".toList ∧ (∀ p ∈ [node], ¬ name <+: p.name) ∧
      property? (listing (some title) [node, speed, standard]) name = some speed.value ∧
      property? (listing (some title) [node, speed, standard]) word =
        some "b': '':".toList := by
  intro name node speed standard title word
  have htitle : '\n' ∉ title := by decide +kernel
  have hprintable : ∀ q ∈ [node, speed, standard], q.Printable := by decide +kernel
  have hnames : ∀ n ∈ [name, word], IsName n ∧ ¬ "Device '".toList <+: n := by decide +kernel
  have hnoWord : ¬ name <+: "Device".toList := by decide +kernel
  have hword : word <+: "Device".toList := by decide +kernel
  have hbefore : ∀ p ∈ [node], ¬ name <+: p.name := by decide +kernel
  have hrest : valueOfTitle title = "b': '':".toList := by decide +kernel
  obtain ⟨hname, hnoTitle⟩ := hnames name List.mem_cons_self
  obtain ⟨hname', hnoTitle'⟩ := hnames word (List.mem_cons_of_mem name List.mem_cons_self)
  obtain ⟨-, hfound, -⟩ := lookup_first_starting htitle hprintable hname hnoTitle
  obtain ⟨hfoundTitle, -, -⟩ := lookup_first_starting htitle hprintable hname' hnoTitle'
  rw [if_pos hword, hrest] at hfoundTitle
  exact ⟨htitle, hprintable, hnames, hnoWord, hbefore,
    hfound hnoWord [node] speed [standard] rfl rfl hbefore, hfoundTitle⟩

/-- A name finds the property of a longer name that is listed before its own, and it finds one where
no property has just that name. The first word of the title is found as well. -/
theorem lookup_not_exact :
    let speed : Property := ⟨"libinput Accel Speed".toList, 283, ['1']⟩
    let standard : Property := ⟨"libinput Accel Speed Default".toList, 284, ['0']⟩
    let shorter := "libinput Accel".toList
    let word := "Device".toList
    let printed := listing (some "Pad".toList) [standard, speed]
    (∀ q ∈ [standard, speed], q.Printable) ∧ ([standard, speed].map Property.name).Nodup ∧
      (∀ name ∈ [speed.name, shorter, word], IsName name ∧ ¬ "Device '".toList <+: name) ∧
      (∀ name ∈ [shorter, word], name ∉ [standard, speed].map Property.name) ∧
      property? printed speed.name = some standard.value ∧ standard.value ≠ speed.value ∧
      property? printed shorter = some standard.value ∧ property? printed word = some [] := by
  decide +kernel

end KeyChord.Device
