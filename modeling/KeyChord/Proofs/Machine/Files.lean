import KeyChord.Machine.Files
import KeyChord.Proofs.Fallible
import Mathlib.Data.List.Basic

/-!
# Writes to plain files

A write opens the path anew each time, and what a path leads to depends on the whole table of
entries. But a write makes no directory and removes nothing: it changes one plain file, or makes one
where nothing was. So every path leads after it to the place it led to before, and of the contents
that paths lead to only the one at that place is another.

This needs that the table is a tree, every entry standing in a directory (`Rooted`), which a write
keeps. In a table that is none, making a file could give a meaning to a path that goes up to it.

* `placeOf?`: the place that a path opens for writing, if a plain file is there or nothing.
* `placeOf?_eq_some_iff`: which place that is, read off the names of the path.
* `SameShape`: tables that differ in plain files only; their paths lead to the same places.
* `Write`, `Write.on`: writes, and the files after them.
* `content?_foldl_on`: **the content of a file is the fold of the writes that lead to it.**
-/

namespace KeyChord

/-- A plain file, or nothing. -/
inductive Entry.Plain : Option Entry → Prop
  | vacant : Plain none
  | regular (content : ByteArray) : Plain (some (.regular content))

namespace FileSystem

open Fallible

variable {fs fs' : FileSystem} {path name last : String} {place parent : Place}

/-! ## One entry -/

theorem lookup_cons_eq_ite (place p : Place) (e : Entry) (entries : List (Place × Entry)) :
    ((p, e) :: entries).lookup place = if place = p then some e else entries.lookup place := by
  by_cases h : place = p
  · subst h
    rw [List.lookup_cons_self, if_pos rfl]
  · rw [List.lookup_cons, beq_false_of_ne h, if_neg h]

theorem lookup_replaceAt (place q : Place) (e : Entry) (entries : List (Place × Entry)) :
    (replaceAt q e entries).lookup place =
      if place = q then some e else entries.lookup place := by
  induction entries with
  | nil => rw [replaceAt, lookup_cons_eq_ite]
  | cons entry entries ih =>
      obtain ⟨p, old⟩ := entry
      rw [replaceAt]
      by_cases hp : p = q
      · subst hp
        rw [if_pos rfl, lookup_cons_eq_ite, lookup_cons_eq_ite]
        split <;> rfl
      · rw [if_neg hp, lookup_cons_eq_ite, lookup_cons_eq_ite, ih]
        by_cases hplace : place = p
        · subst hplace
          rw [if_pos rfl, if_neg hp, if_pos rfl]
        · rw [if_neg hplace, if_neg hplace]

theorem entry?_cons (fs : FileSystem) (name : String) (place : Place) :
    fs.entry? (name :: place) = fs.entries.lookup (name :: place) := rfl

/-- Setting an entry changes what stands at its place and nowhere else. -/
theorem entry?_set {q : Place} (hq : q ≠ []) (e : Entry) (place : Place) :
    entry? (fs.set q e) place = if place = q then some e else fs.entry? place := by
  cases place with
  | nil =>
      rw [if_neg hq.symm]
      rfl
  | cons name place =>
      rw [entry?_cons, entry?_cons]
      exact lookup_replaceAt (name :: place) q e fs.entries

/-- The root is neither a plain file nor missing. -/
theorem ne_nil_of_plain (h : Entry.Plain (fs.entry? place)) : place ≠ [] := by
  rintro rfl
  cases h

/-- The content of the plain file at a place, if there is one. -/
def content? (fs : FileSystem) (place : Place) : Option ByteArray :=
  match fs.entry? place with
  | some (.regular content) => some content
  | _ => none

/-! ## Trees -/

/-- The table is a tree: each entry stands in a directory. -/
def Rooted (fs : FileSystem) : Prop :=
  ∀ place, (fs.entry? place).isSome → fs.entry? place.tail = some .directory

/-- A table is a tree if each place that is listed stands in a directory. -/
theorem rooted_of_forall_mem
    (h : ∀ entry ∈ fs.entries, fs.entry? entry.1.tail = some .directory) : fs.Rooted := by
  intro place hsome
  cases place with
  | nil => rfl
  | cons name place =>
      rw [entry?_cons] at hsome
      obtain ⟨e, he⟩ := Option.isSome_iff_exists.1 hsome
      obtain ⟨before, after, hentries, -⟩ := List.lookup_eq_some_iff.1 he
      have hmem : (name :: place, e) ∈ fs.entries := by
        rw [hentries]
        exact List.mem_append_right before List.mem_cons_self
      exact h _ hmem

/-! ## Walking -/

/-- A step is made from a directory only. -/
theorem directory_of_walk_eq_ok {next : Place} (h : fs.walk place name = .ok next) :
    fs.entry? place = some .directory := by
  unfold walk at h
  split at h
  · assumption
  · cases h
  · cases h

/-- The tables have the same directories, and plain files or nothing at the same places. -/
structure SameShape (fs fs' : FileSystem) : Prop where
  home : fs'.home = fs.home
  directory : ∀ place, fs'.entry? place = some .directory ↔ fs.entry? place = some .directory
  plain : ∀ place, Entry.Plain (fs'.entry? place) ↔ Entry.Plain (fs.entry? place)

namespace SameShape

theorem refl (fs : FileSystem) : SameShape fs fs :=
  ⟨rfl, fun _ => Iff.rfl, fun _ => Iff.rfl⟩

theorem symm (h : SameShape fs fs') : SameShape fs' fs :=
  ⟨h.home.symm, fun place => (h.directory place).symm, fun place => (h.plain place).symm⟩

theorem trans {fs'' : FileSystem} (h : SameShape fs fs') (h' : SameShape fs' fs'') :
    SameShape fs fs'' :=
  ⟨h'.home.trans h.home, fun place => (h'.directory place).trans (h.directory place),
    fun place => (h'.plain place).trans (h.plain place)⟩

/-- A step to a directory depends on the directories alone. -/
theorem walk {next : Place} (h : SameShape fs fs') (hwalk : fs.walk place name = .ok next)
    (hnext : fs.entry? next = some .directory) : fs'.walk place name = .ok next := by
  have hplace := directory_of_walk_eq_ok hwalk
  unfold FileSystem.walk at hwalk ⊢
  rw [hplace] at hwalk
  rw [(h.directory place).2 hplace]
  simp only at hwalk ⊢
  by_cases hdot : name = "."
  · rw [if_pos hdot] at hwalk ⊢
    exact hwalk
  rw [if_neg hdot] at hwalk ⊢
  by_cases hdots : name = ".."
  · rw [if_pos hdots] at hwalk ⊢
    exact hwalk
  rw [if_neg hdots] at hwalk ⊢
  by_cases hfits : maxName < name.utf8ByteSize
  · rw [if_pos hfits] at hwalk
    cases hwalk
  rw [if_neg hfits] at hwalk ⊢
  -- an entry that is there on one side need not be on the other, unless it is a directory
  split at hwalk
  · cases hwalk
    rw [(h.directory _).2 hnext]
    rfl
  · cases hwalk

/-- So does the way to a directory. -/
theorem foldlM_walk (h : SameShape fs fs') {names : List String}
    (hwalk : names.foldlM fs.walk place = .ok parent)
    (hparent : fs.entry? parent = some .directory) :
    fs.entry? place = some .directory ∧ names.foldlM fs'.walk place = .ok parent := by
  induction names generalizing place with
  | nil =>
      cases hwalk
      exact ⟨hparent, rfl⟩
  | cons name names ih =>
      rw [List.foldlM_cons] at hwalk
      obtain ⟨next, hnext, hrest⟩ := bind_eq_ok_iff.1 hwalk
      obtain ⟨hdirectory, hrest'⟩ := ih hrest
      refine ⟨directory_of_walk_eq_ok hnext, ?_⟩
      rw [List.foldlM_cons, bind_eq_ok_iff]
      exact ⟨next, h.walk hnext hdirectory, hrest'⟩

end SameShape

/-! ## Locating -/

/-- The names before the last one lead to a directory. -/
structure LeadsInto (fs : FileSystem) (path : String) (parent : Place) : Prop where
  walk_eq : (pathNames path).dropLast.foldlM fs.walk
    (if path.toList.head? = some '/' then [] else fs.home) = .ok parent
  directory : fs.entry? parent = some .directory

theorem SameShape.leadsInto (h : SameShape fs fs') (hpath : fs.LeadsInto path parent) :
    fs'.LeadsInto path parent where
  walk_eq := by
    rw [h.home]
    exact (h.foldlM_walk hpath.walk_eq hpath.directory).2
  directory := (h.directory parent).2 hpath.directory

/-- What stands at a place, or that nothing does. -/
def targetAt (fs : FileSystem) (place : Place) : Target :=
  match fs.entry? place with
  | some e => .found place e
  | none => .vacant place

/-- The place that a target opens for writing, if a plain file is there or nothing. -/
def Target.plainPlace? : Target → Option Place
  | .vacant place => some place
  | .found place (.regular _) => some place
  | .found _ _ => none

theorem plainPlace?_targetAt_eq_some_iff {q : Place} :
    (fs.targetAt q).plainPlace? = some place ↔ place = q ∧ Entry.Plain (fs.entry? q) := by
  unfold targetAt
  split
  · rename_i e he
    rw [he]
    cases e with
    | regular content =>
        rw [Target.plainPlace?, Option.some.injEq]
        exact ⟨fun h => ⟨h.symm, .regular content⟩, fun h => h.1.symm⟩
    | directory => exact ⟨fun h => (nomatch h), fun h => (nomatch h.2)⟩
    | sink => exact ⟨fun h => (nomatch h), fun h => (nomatch h.2)⟩
    | full => exact ⟨fun h => (nomatch h), fun h => (nomatch h.2)⟩
    | input device => exact ⟨fun h => (nomatch h), fun h => (nomatch h.2)⟩
  · rename_i he
    rw [he, Target.plainPlace?, Option.some.injEq]
    exact ⟨fun h => ⟨h.symm, .vacant⟩, fun h => h.1.symm⟩

/-- What stands under the last name of a path, where the names before it lead to `parent`. -/
def lookUp (fs : FileSystem) (parent : Place) (last : String) : Except MachineFault Target :=
  match fs.walk parent last with
  | .ok place =>
    match fs.entry? place with
    | some e => .ok (.found place e)
    | none => .error .noEntry
  | .error .noEntry =>
    match fs.entry? parent with
    | some .directory => .ok (.vacant (last :: parent))
    | _ => .error .noEntry
  | .error fault => .error fault

/-- A name of an entry leads to what stands under it. -/
theorem lookUp_of_directory (hparent : fs.entry? parent = some .directory)
    (hdots : isDots last = false) (hfits : last.utf8ByteSize ≤ maxName) :
    fs.lookUp parent last = .ok (fs.targetAt (last :: parent)) := by
  simp only [isDots, Bool.or_eq_false_iff, decide_eq_false_iff_not] at hdots
  unfold lookUp targetAt walk
  rw [hparent]
  simp only [if_neg hdots.1, if_neg hdots.2, if_neg (Nat.not_lt.2 hfits)]
  cases hlast : fs.entry? (last :: parent) with
  | none => rfl
  | some e => simp [hlast]

/-- Nothing is looked up where no directory is. -/
theorem directory_of_lookUp_eq_ok {target : Target} (h : fs.lookUp parent last = .ok target) :
    fs.entry? parent = some .directory := by
  unfold lookUp at h
  split at h
  · exact directory_of_walk_eq_ok ‹_›
  · split at h
    · assumption
    · cases h
  · cases h

/-- Dots lead to directories, so where a plain file is found or could be made, the name is that of
an entry. -/
theorem of_lookUp_plain (hrooted : fs.Rooted) {target : Target}
    (h : fs.lookUp parent last = .ok target) (hplain : target.plainPlace? = some place) :
    isDots last = false ∧ last.utf8ByteSize ≤ maxName := by
  have hparent := directory_of_lookUp_eq_ok h
  have habove := hrooted parent (by rw [hparent]; rfl)
  unfold lookUp walk at h
  rw [hparent] at h
  simp only at h
  by_cases hdot : last = "."
  · rw [if_pos hdot] at h
    simp only [hparent] at h
    cases h
    cases hplain
  rw [if_neg hdot] at h
  by_cases hdots : last = ".."
  · rw [if_pos hdots] at h
    simp only [habove] at h
    cases h
    cases hplain
  rw [if_neg hdots] at h
  by_cases hfits : maxName < last.utf8ByteSize
  · rw [if_pos hfits] at h
    cases h
  exact ⟨by simp [isDots, hdot, hdots], Nat.not_lt.1 hfits⟩

/-- Following a path: its text is looked at first, then the names before the last one, then whether
a file may be made, then the last name. -/
theorem locate_eq (fs : FileSystem) (path : String) (making : Bool) :
    fs.locate path making =
      if path.toList.contains '\x00' then .error .zeroInPath
      else if path = "" then .error .noEntry
      else if maxPath < path.utf8ByteSize then .error .nameTooLong
      else
        match (pathNames path).getLast? with
        | none => .ok (.found [] .directory)
        | some last => (do
          let parent ← (pathNames path).dropLast.foldlM fs.walk
            (if path.toList.head? = some '/' then [] else fs.home)
          if making then fs.refuseMaking path parent last
          fs.lookUp parent last) := by
  unfold locate
  split
  · rfl
  split
  · rfl
  split
  · rfl
  rfl

/-- What is found at the end of a path stands at its place. -/
theorem entry?_of_locate {making : Bool} {e : Entry}
    (h : fs.locate path making = .ok (.found place e)) : fs.entry? place = some e := by
  have hlookUp {parent : Place} {last : String}
      (h : fs.lookUp parent last = .ok (.found place e)) : fs.entry? place = some e := by
    unfold lookUp at h
    split at h
    · split at h
      · cases h
        assumption
      · cases h
    · split at h <;> cases h
    · cases h
  rw [locate_eq] at h
  split at h
  · cases h
  split at h
  · cases h
  split at h
  · cases h
  split at h
  · cases h
    rfl
  · obtain ⟨parent, -, h⟩ := bind_eq_ok_iff.1 h
    split at h
    · obtain ⟨⟨⟩, -, h⟩ := bind_eq_ok_iff.1 h
      exact hlookUp h
    · exact hlookUp h

/-- What a path leads to stands somewhere. -/
theorem exists_entry?_of_resolve {e : Entry} (h : fs.resolve path = .ok e) :
    ∃ place, fs.entry? place = some e := by
  obtain ⟨target, hlocate, h⟩ := bind_eq_ok_iff.1 h
  cases target with
  | vacant place => cases h
  | found place stands =>
      have hentry := entry?_of_locate hlocate
      split at h
      · next heq =>
          cases heq
          cases h
          exact ⟨place, hentry⟩
      · next heq =>
          cases heq
          split at h
          · cases h
          · cases h
            exact ⟨place, hentry⟩
      · cases h

/-- A device that can be opened is listed. -/
theorem exists_mem_entries_of_openInput {device : InputDevice}
    (h : fs.openInput path = .ok device) : ∃ place, (place, .input device) ∈ fs.entries := by
  obtain ⟨e, hresolve, h⟩ := bind_eq_ok_iff.1 h
  obtain ⟨place, hentry⟩ := exists_entry?_of_resolve hresolve
  have he : e = .input device := by
    cases e with
    | input found =>
        simp only at h
        split at h
        · cases h
        · cases h
          rfl
    | regular content => cases h
    | directory => cases h
    | sink => cases h
    | full => cases h
  subst he
  cases place with
  | nil => cases hentry
  | cons name parent =>
      obtain ⟨before, after, hentries, -⟩ := List.lookup_eq_some_iff.1 hentry
      refine ⟨name :: parent, ?_⟩
      rw [hentries]
      exact List.mem_append_right before List.mem_cons_self

/-- The system looks up paths of this kind, and the last name is that of an entry, so that nothing
in the text rules out making a file there. -/
structure NamesFile (path last : String) : Prop where
  noZero : path.toList.contains '\x00' = false
  nonempty : path ≠ ""
  fits : path.utf8ByteSize ≤ maxPath
  getLast?_eq : (pathNames path).getLast? = some last
  noSlash : endsInSlash path = false
  noDots : isDots last = false
  lastFits : last.utf8ByteSize ≤ maxName

/-- A path that names a file in a directory leads to what stands there under its last name. -/
theorem locate_of_namesFile (hnames : NamesFile path last) (hpath : fs.LeadsInto path parent)
    (making : Bool) : fs.locate path making = .ok (fs.targetAt (last :: parent)) := by
  have hrefuse : fs.refuseMaking path parent last = .ok () := by
    rw [refuseMaking, hpath.directory]
    simp only [hnames.noSlash, Bool.false_and]
    rfl
  have hlookUp := lookUp_of_directory hpath.directory hnames.noDots hnames.lastFits
  have hzero := hnames.noZero
  rw [locate_eq, if_neg (by rw [hzero]; exact Bool.false_ne_true), if_neg hnames.nonempty,
    if_neg (Nat.not_lt.2 hnames.fits), hnames.getLast?_eq]
  refine bind_eq_ok_iff.2 ⟨parent, hpath.walk_eq, ?_⟩
  cases making with
  | false => exact hlookUp
  | true =>
      rw [if_pos rfl, hrefuse]
      exact hlookUp

/-- In a tree, a path that opens a plain file for writing names it. -/
theorem exists_namesFile_of_locate (hrooted : fs.Rooted) {target : Target}
    (h : fs.locate path true = .ok target) (hplain : target.plainPlace? = some place) :
    ∃ last parent, NamesFile path last ∧ fs.LeadsInto path parent := by
  rw [locate_eq] at h
  split at h
  · cases h
  rename_i hzero
  split at h
  · cases h
  rename_i hempty
  split at h
  · cases h
  rename_i hfits
  split at h
  · cases h
    cases hplain
  · rename_i last hlast
    obtain ⟨parent, hwalk, h⟩ := bind_eq_ok_iff.1 h
    rw [if_pos rfl] at h
    obtain ⟨⟨⟩, hrefuse, hlookUp⟩ := bind_eq_ok_iff.1 h
    have hparent := directory_of_lookUp_eq_ok hlookUp
    obtain ⟨hdots, hlastFits⟩ := of_lookUp_plain hrooted hlookUp hplain
    have hslash : endsInSlash path = false := by
      rw [refuseMaking, hparent, hdots] at hrefuse
      cases hend : endsInSlash path with
      | false => rfl
      | true =>
          rw [hend] at hrefuse
          cases hrefuse
    have hnames : NamesFile path last :=
      ⟨by simpa using hzero, hempty, Nat.not_lt.1 hfits, hlast, hslash, hdots, hlastFits⟩
    exact ⟨last, parent, hnames, hwalk, hparent⟩

/-- The place that a path opens for writing, if a plain file is there or nothing. -/
def placeOf? (fs : FileSystem) (path : String) : Option Place :=
  (fs.locate path true).toOption.bind Target.plainPlace?

/-- **The place that a path opens** is that of its last name, in the directory that the names before
lead to. -/
theorem placeOf?_eq_some_iff (hrooted : fs.Rooted) :
    fs.placeOf? path = some place ↔
      ∃ last parent, NamesFile path last ∧ fs.LeadsInto path parent ∧ place = last :: parent ∧
        Entry.Plain (fs.entry? place) := by
  rw [placeOf?, Option.bind_eq_some_iff]
  simp only [toOption_eq_some_iff]
  constructor
  · rintro ⟨target, htarget, hplain⟩
    obtain ⟨last, parent, hnames, hpath⟩ := exists_namesFile_of_locate hrooted htarget hplain
    rw [locate_of_namesFile hnames hpath] at htarget
    cases htarget
    obtain ⟨rfl, hstands⟩ := plainPlace?_targetAt_eq_some_iff.1 hplain
    exact ⟨last, parent, hnames, hpath, rfl, hstands⟩
  · rintro ⟨last, parent, hnames, hpath, rfl, hplain⟩
    exact ⟨_, locate_of_namesFile hnames hpath true,
      plainPlace?_targetAt_eq_some_iff.2 ⟨rfl, hplain⟩⟩

/-- Tables of one shape open the same places. -/
theorem SameShape.placeOf?_eq (h : SameShape fs fs') (hrooted : fs.Rooted) (hrooted' : fs'.Rooted)
    (path : String) : fs'.placeOf? path = fs.placeOf? path := by
  have hiff (place : Place) : fs'.placeOf? path = some place ↔ fs.placeOf? path = some place := by
    rw [placeOf?_eq_some_iff hrooted, placeOf?_eq_some_iff hrooted']
    constructor
    · rintro ⟨last, parent, hnames, hpath, rfl, hplain⟩
      exact ⟨last, parent, hnames, h.symm.leadsInto hpath, rfl, (h.plain _).1 hplain⟩
    · rintro ⟨last, parent, hnames, hpath, rfl, hplain⟩
      exact ⟨last, parent, hnames, h.leadsInto hpath, rfl, (h.plain _).2 hplain⟩
  exact Option.ext hiff

/-- **Reading a path gives what stands at its place**, if that is a plain file. -/
theorem readBytes_of_placeOf? (hrooted : fs.Rooted) (h : fs.placeOf? path = some place) :
    (fs.readBytes path).toOption = fs.content? place := by
  obtain ⟨last, parent, hnames, hpath, rfl, hplain⟩ := (placeOf?_eq_some_iff hrooted).1 h
  have hlocate := locate_of_namesFile hnames hpath false
  have hslash := hnames.noSlash
  unfold targetAt at hlocate
  unfold readBytes resolve content?
  cases hentry : fs.entry? (last :: parent) with
  | none =>
      rw [hentry] at hlocate
      rw [hlocate]
      rfl
  | some e =>
      rw [hentry] at hlocate hplain
      rw [hlocate]
      cases hplain with
      | regular content =>
          simp only [bind, Except.bind, hslash]
          rfl

/-! ## Setting a plain file -/

section Set

variable {q : Place} (hplain : Entry.Plain (fs.entry? q)) (content : ByteArray)

include hplain

theorem entry?_set_regular (place : Place) :
    entry? (fs.set q (.regular content)) place =
      if place = q then some (.regular content) else fs.entry? place :=
  entry?_set (ne_nil_of_plain hplain) _ place

/-- A plain file that is changed or made leaves all else as it is. -/
theorem sameShape_set : SameShape fs (fs.set q (.regular content)) where
  home := rfl
  directory place := by
    rw [entry?_set_regular hplain]
    split
    · rename_i hplace
      subst hplace
      exact ⟨fun h => (nomatch h), fun h => by rw [h] at hplain; cases hplain⟩
    · rfl
  plain place := by
    rw [entry?_set_regular hplain]
    split
    · rename_i hplace
      subst hplace
      exact ⟨fun _ => hplain, fun _ => .regular content⟩
    · rfl

/-- A tree stays one if a file is made in a directory. -/
theorem Rooted.set (hrooted : fs.Rooted) (hparent : fs.entry? q.tail = some .directory) :
    (fs.set q (.regular content)).Rooted := by
  intro place hsome
  rw [(sameShape_set hplain content).directory]
  rw [entry?_set_regular hplain] at hsome
  split at hsome
  · rename_i hplace
    rw [hplace]
    exact hparent
  · exact hrooted place hsome

theorem content?_set (place : Place) :
    (fs.set q (.regular content)).content? place =
      if place = q then some content else fs.content? place := by
  unfold content?
  rw [entry?_set_regular hplain]
  by_cases hplace : place = q
  · rw [if_pos hplace, if_pos hplace]
  · rw [if_neg hplace, if_neg hplace]

end Set

/-! ## Writes -/

/-- A text that is written to a file. -/
structure Write where
  path : String
  mode : WriteMode
  text : String
  deriving DecidableEq, Repr

namespace Write

/-- The files after a write. One that fails leaves them as they are. -/
def on (fs : FileSystem) (w : Write) : FileSystem :=
  match fs.writeText w.path w.mode w.text with
  | .ok fs' => fs'
  | .error _ => fs

/-- What a file holds after a write to it, from what it held before if it was there: the text, or
what it held and then the text. -/
def after (old : Option ByteArray) (w : Write) : Option ByteArray :=
  match w.mode with
  | .truncate => some w.text.toUTF8
  | .append => some (old.getD .empty ++ w.text.toUTF8)

variable {w : Write}

/-- A write to a path that opens a plain file, or makes one, sets its content. -/
theorem on_of_placeOf? (hrooted : fs.Rooted) (h : fs.placeOf? w.path = some place) :
    ∃ content, after (fs.content? place) w = some content ∧
      on fs w = fs.set place (.regular content) := by
  obtain ⟨last, parent, hnames, hpath, rfl, hplain⟩ := (placeOf?_eq_some_iff hrooted).1 h
  have hlocate := locate_of_namesFile hnames hpath true
  unfold targetAt at hlocate
  unfold on writeText content?
  cases hentry : fs.entry? (last :: parent) with
  | none =>
      rw [hentry] at hlocate
      rw [hlocate]
      refine ⟨w.text.toUTF8, ?_, rfl⟩
      unfold after
      cases w.mode with
      | truncate => rfl
      | append => exact congrArg some ByteArray.empty_append
  | some e =>
      rw [hentry] at hlocate hplain
      rw [hlocate]
      cases hplain with
      | regular content =>
          refine ⟨w.mode.apply content w.text.toUTF8, ?_, rfl⟩
          unfold after
          cases w.mode with
          | truncate => rfl
          | append => rfl

/-- A write to any other path changes nothing, whether it fails or not. -/
theorem on_of_placeOf?_eq_none (h : fs.placeOf? w.path = none) : on fs w = fs := by
  unfold placeOf? at h
  unfold on writeText
  cases hlocate : fs.locate w.path true with
  | error fault => rfl
  | ok target =>
      rw [hlocate] at h
      cases target with
      | vacant place => cases h
      | found place e =>
          cases e with
          | regular content => cases h
          | directory => rfl
          | sink => rfl
          | input device => rfl
          | full =>
              by_cases htext : w.text = ""
              · simp [htext, bind, Except.bind, pure, Except.pure]
              · simp [htext, bind, Except.bind, throw, throwThe, MonadExceptOf.throw]

/-- What one write does to a tree: it stays one of the same shape, and of the contents, that of the
file that the path leads to is as after the write, and the others are as they were. -/
theorem on_spec (hrooted : fs.Rooted) (w : Write) :
    (on fs w).Rooted ∧ SameShape fs (on fs w) ∧
      ∀ place, (on fs w).content? place =
        if fs.placeOf? w.path = some place then after (fs.content? place) w
        else fs.content? place := by
  cases hplace : fs.placeOf? w.path with
  | none =>
      rw [on_of_placeOf?_eq_none hplace]
      exact ⟨hrooted, .refl fs, fun place => rfl⟩
  | some q =>
      obtain ⟨content, hcontent, hon⟩ := on_of_placeOf? hrooted hplace
      obtain ⟨last, parent, -, hpath, rfl, hplain⟩ := (placeOf?_eq_some_iff hrooted).1 hplace
      rw [hon]
      refine ⟨Rooted.set hplain content hrooted hpath.directory, sameShape_set hplain content, ?_⟩
      intro place
      rw [content?_set hplain]
      by_cases h : place = last :: parent
      · rw [if_pos h, h, if_pos rfl, hcontent]
      · have hne : some (last :: parent) ≠ some place := fun heq => h (Option.some.inj heq).symm
        rw [if_neg h, if_neg hne]

/-- **The content of a file is the fold of the writes that lead to it**, from what it was before.
Which writes these are can be told beforehand, since no write changes where a path leads. -/
theorem content?_foldl_on (hrooted : fs.Rooted) (writes : List Write) :
    (writes.foldl on fs).Rooted ∧ SameShape fs (writes.foldl on fs) ∧
      ∀ place, (writes.foldl on fs).content? place =
        (writes.filter fun w => fs.placeOf? w.path = some place).foldl after
          (fs.content? place) := by
  induction writes generalizing fs with
  | nil => exact ⟨hrooted, .refl fs, fun place => rfl⟩
  | cons w writes ih =>
      obtain ⟨hon, hshape, hcontent⟩ := on_spec hrooted w
      obtain ⟨hrooted', hshape', hcontent'⟩ := ih hon
      rw [List.foldl_cons]
      refine ⟨hrooted', hshape.trans hshape', fun place => ?_⟩
      have hplaces : (writes.filter fun w' => (on fs w).placeOf? w'.path = some place) =
          writes.filter fun w' => fs.placeOf? w'.path = some place :=
        List.filter_congr fun w' _ => by rw [hshape.placeOf?_eq hrooted hon]
      rw [hcontent' place, hplaces, hcontent place]
      by_cases h : fs.placeOf? w.path = some place
      · rw [if_pos h, List.filter_cons_of_pos (by simpa using h), List.foldl_cons]
      · rw [if_neg h, List.filter_cons_of_neg (by simpa using h)]

end Write

end FileSystem

end KeyChord
