import KeyChord.Config.Header
import KeyChord.Proofs.Members
import KeyChord.Proofs.Text.Words

/-!
# Headers as they are written

A header is written as a kind and then a row of parameters, with any blanks between them and around
them. Taking it apart gives back the kind and the parameters: every name once, with the value that
is written for it last.

* `Parameter`: a name with a value, or a bare name, which counts as one with the empty value.
* `headerText`: a header with its blanks.
* `words_rowText`, `Parameter.Proper.parameter_text`: the words of a header, and what each of them
  says.
* `Header.ofText_written`: **taking a header apart undoes writing it.**
-/

namespace KeyChord.Config

open Members Text

/-- A parameter as it is written. -/
inductive Parameter where
  /-- A name and a value with an equals sign between them. -/
  | valued (name value : List Char)
  /-- A name alone. -/
  | bare (name : List Char)
  deriving DecidableEq, Repr

namespace Parameter

/-- The word of a parameter. -/
def text : Parameter → List Char
  | valued name value => name ++ '=' :: value
  | bare name => name

/-- The name and the value that a parameter stands for. -/
def member : Parameter → String × String
  | valued name value => (String.ofList name, String.ofList value)
  | bare name => (String.ofList name, "")

/-- The parameter is a word of its own, and its name ends before the first equals sign. A value may
hold further equals signs, and name and value may be empty where there is such a sign. -/
def Proper : Parameter → Prop
  | valued name value => '=' ∉ name ∧ NoBlank name ∧ NoBlank value
  | bare name => IsWord name ∧ '=' ∉ name

instance (p : Parameter) : Decidable p.Proper :=
  match p with
  | valued name value =>
    inferInstanceAs (Decidable ('=' ∉ name ∧ NoBlank name ∧ NoBlank value))
  | bare name => inferInstanceAs (Decidable (IsWord name ∧ '=' ∉ name))

theorem Proper.isWord {p : Parameter} (h : p.Proper) : IsWord p.text := by
  cases p with
  | valued name value =>
      obtain ⟨-, hname, hvalue⟩ := h
      refine ⟨by simp [text], fun c hc => ?_⟩
      rcases List.mem_append.1 hc with hc | hc
      · exact hname c hc
      rcases List.mem_cons.1 hc with rfl | hc
      · decide
      · exact hvalue c hc
  | bare name => exact h.1

/-- **A parameter is read as what it stands for.** -/
theorem Proper.parameter_text {p : Parameter} (h : p.Proper) : parameter p.text = p.member := by
  unfold parameter
  cases p with
  | valued name value =>
      dsimp only [text]
      rw [cutAt?_append h.1]
      rfl
  | bare name =>
      dsimp only [text]
      rw [cutAt?_eq_none h.2]
      rfl

end Parameter

/-- Parameters, each after its gap. -/
def rowText (row : List (List Char × Parameter)) : List Char :=
  row.flatMap fun entry => entry.1 ++ entry.2.text

/-- A header with the blanks before it and after it. -/
def headerText (before kind : List Char) (row : List (List Char × Parameter)) (after : List Char) :
    List Char :=
  before ++ (kind ++ (rowText row ++ after))

variable {before kind after : List Char} {row : List (List Char × Parameter)}

/-- The words of a row that follows a word. -/
theorem words_rowText (hkind : IsWord kind)
    (hrow : ∀ entry ∈ row, entry.1 ≠ [] ∧ Blanks entry.1 ∧ entry.2.Proper) (hafter : Blanks after) :
    words (kind ++ (rowText row ++ after)) = kind :: row.map fun entry => entry.2.text := by
  induction row generalizing kind with
  | nil =>
      by_cases hnone : after = []
      · rw [hnone, rowText, List.flatMap_nil, List.append_nil, List.append_nil, hkind.words_eq]
        rfl
      · have hword := words_word_append hkind hnone hafter []
        rwa [List.append_nil, words_nil] at hword
  | cons entry row ih =>
      obtain ⟨⟨hne, hgap, hproper⟩, hrow⟩ := List.forall_mem_cons.1 hrow
      have htext : kind ++ (rowText (entry :: row) ++ after) =
          kind ++ (entry.1 ++ (entry.2.text ++ (rowText row ++ after))) := by
        simp [rowText]
      rw [htext, words_word_append hkind hne hgap, ih hproper.isWord hrow]
      rfl

/-- **Taking a header apart undoes writing it.** The kind comes back, and the parameters have the
names that are written, each with the value written for it last. A header of blanks only has the
empty kind and no parameters. -/
theorem Header.ofText_written (hbefore : Blanks before) (hkind : IsWord kind)
    (hrow : ∀ entry ∈ row, entry.1 ≠ [] ∧ Blanks entry.1 ∧ entry.2.Proper) (hafter : Blanks after) :
    let header := ofText (String.ofList (headerText before kind row after))
    let members := row.map fun entry => entry.2.member
    header.kind = String.ofList kind ∧
      header.parameters.map Prod.fst = firstNames members ∧
      (∀ name value, header.parameters.get? name = some value ↔ LastWritten members name value) ∧
      ∀ blanks, Blanks blanks → ofText (String.ofList blanks) = ⟨"", []⟩ := by
  intro header members
  have hwords : words (headerText before kind row after) =
      kind :: row.map fun entry => entry.2.text := by
    unfold headerText
    rw [words_append_of_blanks hbefore, words_rowText hkind hrow hafter]
  have hmembers : (row.map fun entry => entry.2.text).map parameter = members := by
    rw [List.map_map]
    exact List.map_congr_left fun entry hentry => (hrow entry hentry).2.2.parameter_text
  have hheader : header = ⟨String.ofList kind, ofList members⟩ := by
    show ofText (String.ofList (headerText before kind row after)) = _
    unfold ofText
    rw [String.toList_ofList, hwords]
    dsimp only
    rw [hmembers]
  rw [hheader]
  refine ⟨rfl, names_ofList members, fun name value => get?_ofList_eq_some_iff, fun blanks h => ?_⟩
  unfold ofText
  rw [String.toList_ofList, words_eq_nil_iff.2 h]

/-- The kind holds an equals sign, one name is written three times and another one is empty. -/
theorem Header.ofText_written_repeated :
    let row : List (List Char × Parameter) :=
      [([' '], .valued "user".toList "bob".toList), (['\u3000', '\t'], .bare "user".toList),
        ([' '], .valued "x".toList "a=b".toList), (['\r', '\n'], .valued [] []),
        (['\u00a0'], .valued "user".toList "=eve".toList)]
    let header := ofText " a=b user=bob\u3000\tuser x=a=b\r\n=\u00a0user==eve\u2028"
    Blanks [' '] ∧ IsWord "a=b".toList ∧
      (∀ entry ∈ row, entry.1 ≠ [] ∧ Blanks entry.1 ∧ entry.2.Proper) ∧ Blanks ['\u2028'] ∧
      header.kind = "a=b" ∧ header.parameters.map Prod.fst = ["user", "x", ""] ∧
      header.parameters.get? "user" = some "=eve" ∧
      LastWritten (row.map fun entry => entry.2.member) "user" "=eve" := by
  intro row header
  have hbefore : Blanks [' '] := by decide
  have hkind : IsWord "a=b".toList := by decide
  have hrow : ∀ entry ∈ row, entry.1 ≠ [] ∧ Blanks entry.1 ∧ entry.2.Proper := by decide +kernel
  have hafter : Blanks ['\u2028'] := by decide
  have htext : String.ofList (headerText [' '] "a=b".toList row ['\u2028']) =
      " a=b user=bob\u3000\tuser x=a=b\r\n=\u00a0user==eve\u2028" := by decide +kernel
  have hnames : firstNames (row.map fun entry => entry.2.member) = ["user", "x", ""] := by
    decide +kernel
  have hget : header.parameters.get? "user" = some "=eve" := by decide +kernel
  obtain ⟨hheader, hparameters, hlast, -⟩ :=
    Header.ofText_written hbefore hkind hrow hafter
  rw [htext] at hheader hparameters hlast
  exact ⟨hbefore, hkind, hrow, hafter, hheader, hparameters.trans hnames, hget,
    (hlast "user" "=eve").1 hget⟩

end KeyChord.Config
