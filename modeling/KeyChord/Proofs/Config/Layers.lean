import KeyChord.Config.Settings
import KeyChord.Proofs.Fallible
import KeyChord.Proofs.Members

/-!
# What layers of settings mean

Settings that are spread over several files mean what one object means: every top-level name of any
layer stands in it once, where it came first, with the value of the last layer that has it. A value
is replaced as a whole, and one that has been replaced is never looked at, as nothing is checked
before all layers are there. A file without a layer stops this, and then the first one does that
stands in the list, before any value is checked.

* `Says text layer`, `Holds fs path layer`, `HoldsNone fs path e`: what a text and a file say, and
  why a file says nothing.
* `Settings.mergeFiles_eq`: files are merged once all of them have been read.
* `Settings.load_eq_merged`: **loading files is loading what they merge to, or fails as the first
  bad file does.**
-/

namespace KeyChord.Config

open Fallible

/-! ## What texts and files say -/

/-- Without its comments, the text is an object with these members. If it writes a name more than
once, the last value counts, in the place of the first. -/
def Says (text : String) (layer : Members Json) : Prop :=
  ∃ written, Json.read (stripComments text.toList) = .ok (.object written) ∧
    layer = .ofList written

/-- The file is readable, and its text says this. -/
def Holds (fs : FileSystem) (path : String) (layer : Members Json) : Prop :=
  ∃ text, fs.readText path = .ok text ∧ Says text layer

/-- Why a file says nothing: it cannot be read as a text, or its text without the comments has no
value, or one that is no object. -/
inductive HoldsNone (fs : FileSystem) (path : String) : ConfigError → Prop
  | unreadable {fault : MachineFault} (h : fs.readText path = .error fault) :
      HoldsNone fs path (.unreadable path fault)
  | notJson {text : String} {e : Json.SyntaxError} (htext : fs.readText path = .ok text)
      (h : Json.read (stripComments text.toList) = .error e) :
      HoldsNone fs path (.badText path (.syntactic e))
  | notAnObject {text : String} {value : Json} (htext : fs.readText path = .ok text)
      (hvalue : Json.read (stripComments text.toList) = .ok value)
      (h : ∀ written, value ≠ .object written) : HoldsNone fs path (.notAnObject path)

theorem readLayer_eq_ok_iff {origin text : String} {layer : Members Json} :
    readLayer origin text = .ok layer ↔ Says text layer := by
  unfold readLayer Says
  cases Json.read (stripComments text.toList) with
  | error e => simp
  | ok value => cases value <;> simp [eq_comm]

theorem readFile_eq_ok_iff {fs : FileSystem} {path : String} {layer : Members Json} :
    readFile fs path = .ok layer ↔ Holds fs path layer := by
  unfold readFile Holds
  cases fs.readText path with
  | error fault => simp
  | ok text => simp [readLayer_eq_ok_iff]

theorem readFile_eq_error_iff {fs : FileSystem} {path : String} {e : ConfigError} :
    readFile fs path = .error e ↔ HoldsNone fs path e := by
  unfold readFile
  constructor
  · intro h
    split at h
    · next fault hfault =>
        cases h
        exact .unreadable hfault
    · next text htext =>
        unfold readLayer at h
        split at h
        · next e he =>
            cases h
            exact .notJson htext he
        · cases h
        · next value hno hvalue =>
            cases h
            exact .notAnObject htext hvalue hno
  · intro h
    cases h with
    | unreadable h => rw [h]
    | notJson htext h =>
        rw [htext]
        show readLayer path _ = _
        unfold readLayer
        rw [h]
    | @notAnObject text value htext hvalue h =>
        rw [htext]
        show readLayer path _ = _
        unfold readLayer
        rw [hvalue]
        cases value <;> first | rfl | exact absurd rfl (h _)

theorem nodup_of_holds {fs : FileSystem} {path : String} {layer : Members Json}
    (h : Holds fs path layer) : (layer.map Prod.fst).Nodup := by
  obtain ⟨_, _, written, _, rfl⟩ := h
  exact Members.nodup_ofList written

theorem nodup_of_mem_layers {fs : FileSystem} {paths : List String} {layers : List (Members Json)}
    (h : List.Forall₂ (Holds fs) paths layers) {layer : Members Json} (hlayer : layer ∈ layers) :
    (layer.map Prod.fst).Nodup := by
  obtain ⟨i, hi, rfl⟩ := List.getElem_of_mem hlayer
  exact nodup_of_holds (h.get (by rw [h.length_eq]; exact hi) hi)

/-! ## Loading files -/

/-- The error as it is if the text at fault has another origin. -/
def ConfigError.withOrigin (origin : String) : ConfigError → ConfigError
  | .badText _ fault => .badText origin fault
  | e => e

namespace Settings

/-- The origin is only named in an error. -/
theorem ofMembers_withOrigin (origin origin' : String) (members : Members Json) :
    (ofMembers origin members).mapError (.withOrigin origin') = ofMembers origin' members := by
  unfold ofMembers
  cases members.foldlM Draft.take {} with
  | error m => rfl
  | ok draft =>
      show draft.check.mapError _ = draft.check
      unfold Draft.check
      split
      · rfl
      · dsimp only
        split <;> rfl

/-- **Files are merged once all of them have been read.** -/
theorem mergeFiles_eq (fs : FileSystem) (paths : List String) :
    mergeFiles fs paths = (paths.mapM (readFile fs)).map fun layers =>
      layers.foldl Members.putAll [] :=
  foldlM_map_eq paths []

theorem load_eq {fs : FileSystem} {paths : List String} (hpaths : paths ≠ []) :
    load fs paths = mergeFiles fs paths >>= ofMembers "merged config" := by
  unfold load
  rw [if_neg hpaths]

theorem load_eq_ofMembers {fs : FileSystem} {paths : List String} (hpaths : paths ≠ [])
    {layers : List (Members Json)} (hlayers : List.Forall₂ (Holds fs) paths layers)
    {merged : Members Json} (hmerged : Members.Merges layers merged) :
    load fs paths = ofMembers "merged config" merged := by
  have hread : paths.mapM (readFile fs) = .ok layers :=
    mapM_eq_ok_iff.2 (hlayers.imp fun _ _ h => readFile_eq_ok_iff.2 h)
  rw [load_eq hpaths, mergeFiles_eq, hread, hmerged.unique fun _ => nodup_of_mem_layers hlayers]
  rfl

/-- A single file is no different from the one object that it holds. -/
theorem load_singleton {fs : FileSystem} {path : String} {layer : Members Json}
    (h : Holds fs path layer) : load fs [path] = ofMembers "merged config" layer := by
  have hread : [path].mapM (readFile fs) = .ok [layer] :=
    mapM_eq_ok_iff.2 (.cons (readFile_eq_ok_iff.2 h) .nil)
  have hmerged : [layer].foldl Members.putAll [] = layer :=
    Members.ofList_of_nodup (nodup_of_holds h)
  rw [load_eq (List.cons_ne_nil path []), mergeFiles_eq, hread]
  show ofMembers _ ([layer].foldl Members.putAll []) = _
  rw [hmerged]

theorem load_eq_error {fs : FileSystem} {before after : List String} {path : String}
    {e : ConfigError} (hbefore : ∀ p ∈ before, ∃ layer, Holds fs p layer)
    (h : HoldsNone fs path e) : load fs (before ++ path :: after) = .error e := by
  have hread : (before ++ path :: after).mapM (readFile fs) = .error e := by
    refine mapM_eq_error_iff.2 ⟨before, path, after, rfl, fun p hp => ?_,
      readFile_eq_error_iff.2 h⟩
    obtain ⟨layer, hlayer⟩ := hbefore p hp
    exact ⟨layer, readFile_eq_ok_iff.2 hlayer⟩
  rw [load_eq (by simp), mergeFiles_eq, hread]
  rfl

/-- Either every file holds a layer, or there is a first one that does not. -/
theorem holds_or_holdsNone (fs : FileSystem) (paths : List String) :
    (∃ layers, List.Forall₂ (Holds fs) paths layers) ∨
      ∃ before path after e, paths = before ++ path :: after ∧
        (∀ p ∈ before, ∃ layer, Holds fs p layer) ∧ HoldsNone fs path e := by
  cases hread : paths.mapM (readFile fs) with
  | ok layers =>
      exact Or.inl ⟨layers, (mapM_eq_ok_iff.1 hread).imp fun _ _ h => readFile_eq_ok_iff.1 h⟩
  | error e =>
      obtain ⟨before, path, after, rfl, hbefore, hpath⟩ := mapM_eq_error_iff.1 hread
      simp only [readFile_eq_ok_iff] at hbefore
      exact Or.inr ⟨before, path, after, e, rfl, hbefore, readFile_eq_error_iff.1 hpath⟩

/-- **Layered files mean what they merge to.** If every file of a list holds a layer, the layers
merge to one object, and loading the files is loading this object: from memory, from a single file
that holds it, or from a text that says it, but for the origin in an error. No value that a later
layer replaces is part of this object. Otherwise some file is the first that holds none, and loading
fails with what is wrong with that file, whatever stands in the files after it. -/
theorem load_eq_merged (fs : FileSystem) {paths : List String} (hpaths : paths ≠ []) :
    (∀ layers, List.Forall₂ (Holds fs) paths layers →
      (∃ merged, Members.Merges layers merged) ∧
      ∀ merged, Members.Merges layers merged →
        load fs paths = ofMembers "merged config" merged ∧
        (∀ fs' path, Holds fs' path merged → load fs paths = load fs' [path]) ∧
        ∀ text, Says text merged →
          load fs paths = (ofText text).mapError (.withOrigin "merged config")) ∧
    (∀ before path after e, paths = before ++ path :: after →
      (∀ p ∈ before, ∃ layer, Holds fs p layer) → HoldsNone fs path e →
      load fs paths = .error e) ∧
    ((∃ layers, List.Forall₂ (Holds fs) paths layers) ∨
      ∃ before path after e, paths = before ++ path :: after ∧
        (∀ p ∈ before, ∃ layer, Holds fs p layer) ∧ HoldsNone fs path e) := by
  refine ⟨?_, ?_, holds_or_holdsNone fs paths⟩
  · intro layers hlayers
    refine ⟨⟨_, Members.merges_foldl fun _ => nodup_of_mem_layers hlayers⟩, ?_⟩
    intro merged hmerged
    have hload := load_eq_ofMembers hpaths hlayers hmerged
    refine ⟨hload, ?_, ?_⟩
    · intro fs' path hpath
      rw [hload, load_singleton hpath]
    · intro text htext
      have htext' : readLayer "inline config" text = .ok merged := readLayer_eq_ok_iff.2 htext
      have hinline : ofText text = ofMembers "inline config" merged := by
        unfold ofText
        rw [htext']
        rfl
      rw [hload, hinline, ofMembers_withOrigin]
  · rintro before path after e rfl hbefore h
    exact load_eq_error hbefore h

/-- The lower file has a key that is no text, and so would not load by itself; the upper one
replaces it, where it stands. A file that holds an array is at fault before one that is not
there. -/
theorem load_eq_merged_replaced :
    let lower : Members Json := [("reset_key", .bool true), ("namespace", .text "key")]
    let upper : Members Json := [("expressions", .object []), ("reset_key", .text "<F1>")]
    let merged : Members Json :=
      [("reset_key", .text "<F1>"), ("namespace", .text "key"), ("expressions", .object [])]
    let text := "\x7b\"reset_key\":\"<F1>\",\"namespace\":\"key\",\"expressions\":\x7b\x7d\x7d"
    let fs : FileSystem := ⟨[(["lower"], .regular
        "# keys\n\x7b\"reset_key\": true, \"namespace\": \"key\"\x7d".toUTF8),
      (["upper"], .regular "\x7b\"expressions\": \x7b\x7d, \"reset_key\": \"<F1>\"\x7d".toUTF8),
      (["list"], .regular "[]".toUTF8)], []⟩
    List.Forall₂ (Holds fs) ["lower", "upper"] [lower, upper] ∧
      Members.Merges [lower, upper] merged ∧ Says text merged ∧
      load fs ["lower", "upper"] = ofMembers "merged config" merged ∧
      load fs ["lower", "upper"] = (ofText text).mapError (.withOrigin "merged config") ∧
      (load fs ["lower", "upper"]).toOption.map Settings.resetKey = some "F1" ∧
      load fs ["lower", "list", "gone"] = .error (.notAnObject "list") := by
  intro lower upper merged text fs
  have hlower : Holds fs "lower" lower :=
    ⟨"# keys\n\x7b\"reset_key\": true, \"namespace\": \"key\"\x7d",
      toOption_eq_some_iff.1 (by decide +kernel), lower, rfl, rfl⟩
  have hupper : Holds fs "upper" upper :=
    ⟨"\x7b\"expressions\": \x7b\x7d, \"reset_key\": \"<F1>\"\x7d",
      toOption_eq_some_iff.1 (by decide +kernel), upper, rfl, rfl⟩
  have htext' : fs.readText "list" = .ok "[]" := toOption_eq_some_iff.1 (by decide +kernel)
  have hvalue : Json.read (stripComments "[]".toList) = .ok (.array []) := rfl
  have hlist : HoldsNone fs "list" (.notAnObject "list") := .notAnObject htext' hvalue nofun
  have hlayers : List.Forall₂ (Holds fs) ["lower", "upper"] [lower, upper] :=
    .cons hlower (.cons hupper .nil)
  have hmerged : Members.Merges [lower, upper] merged := by
    have h := Members.merges_foldl fun _ => nodup_of_mem_layers hlayers
    have hfold : [lower, upper].foldl Members.putAll [] = merged := rfl
    rwa [hfold] at h
  have hread : Json.read (stripComments text.toList) = .ok (.object merged) := by
    unfold text
    rfl
  have htext : Says text merged := ⟨merged, hread, rfl⟩
  obtain ⟨hgood, -⟩ := load_eq_merged fs (List.cons_ne_nil "lower" ["upper"])
  obtain ⟨hload, -, hinline⟩ := (hgood _ hlayers).2 merged hmerged
  obtain ⟨-, hbad, -⟩ := load_eq_merged fs (List.cons_ne_nil "lower" ["list", "gone"])
  refine ⟨hlayers, hmerged, htext, hload, hinline text htext, ?_, ?_⟩
  · rw [hload]
    decide +kernel
  · exact hbad ["lower"] "list" ["gone"] _ rfl (by simpa using ⟨lower, hlower⟩) hlist

end Settings

end KeyChord.Config
