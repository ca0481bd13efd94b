import KeyChord.Proofs.Config.Layers
import KeyChord.Proofs.Config.Loaded
import KeyChord.Proofs.Text.Words

/-!
# The bindings that a text writes

A scheme is written on three levels: headers, patterns under each header, and a command for each
pattern. On every level a name may be written more than once, and it then stands where it was first
written with what was last written for it. The bindings of the scheme are all patterns of all
headers in this order. If any entry is malformed there are none, and the first such entry is at
fault.

* `Lists headers specs`: the specifications that a scheme lists, header by header.
* `InOrder headers`: nothing in the scheme is malformed.
* `FirstOffence scheme fault`: what is malformed first.
* `readScheme_eq_ok_iff`, `readScheme_eq_error_iff`: a scheme that has been read.
* `Settings.ofText_schemes`: where a text writes its schemes.
* `Settings.bindings_written`: the bindings of each scheme, from the text that writes it.
-/

namespace KeyChord

namespace Config

open Fallible Members

/-! ## What a scheme lists -/

/-- There is nothing but blanks in the header, and so no kind of action. -/
def IsBlank (header : String) : Prop :=
  ∀ c ∈ header.toList, Text.isBlank c = true

/-- The specification of a pattern: it has the last command that is written for the pattern. -/
def SpecOf (header : Header) (patterns : List (String × Json)) (pattern : String)
    (spec : BindingSpec) : Prop :=
  ∃ command, LastWritten patterns pattern (.text command) ∧ spec = ⟨header, pattern, command⟩

/-- The specifications under a header, which is not blank: one for each pattern of what is written
for it last, all with the kind and the parameters of the header. -/
def SpecsOf (headers : List (String × Json)) (header : String) (specs : List BindingSpec) : Prop :=
  ¬ IsBlank header ∧ ∃ patterns, LastWritten headers header (.object patterns) ∧
    List.Forall₂ (SpecOf (.ofText header) patterns) (firstNames patterns) specs

/-- The specifications of a scheme: those under each header, one header after another. -/
def Lists (headers : List (String × Json)) (specs : List BindingSpec) : Prop :=
  ∃ groups, List.Forall₂ (SpecsOf headers) (firstNames headers) groups ∧ specs = groups.flatten

/-- The header is not blank, and what it maps to has a text for each pattern. -/
def HeaderInOrder (header : String) (value : Json) : Prop :=
  ¬ IsBlank header ∧ ∃ patterns, value = .object patterns ∧
    ∀ pattern command, LastWritten patterns pattern command → ∃ text, command = .text text

/-- Every header is in order. -/
def InOrder (headers : List (String × Json)) : Prop :=
  ∀ header value, LastWritten headers header value → HeaderInOrder header value

/-- What is malformed under a header: the header itself comes before what it maps to, and this
before its commands. -/
inductive HeaderOffence (header : String) : Json → BindingFault → Prop
  | blank {value : Json} (hheader : IsBlank header) : HeaderOffence header value .blankHeader
  | notPatterns {value : Json} (hheader : ¬ IsBlank header)
      (hvalue : ∀ patterns, value ≠ .object patterns) :
      HeaderOffence header value (.notPatterns header)
  | notCommand {patterns : List (String × Json)} {before after : List String} {pattern : String}
      {command : Json} (hheader : ¬ IsBlank header)
      (hsplit : firstNames patterns = before ++ pattern :: after)
      (hbefore : ∀ p ∈ before, ∃ text, LastWritten patterns p (.text text))
      (hcommand : LastWritten patterns pattern command) (hno : ∀ text, command ≠ .text text) :
      HeaderOffence header (.object patterns) (.notCommand pattern)

/-- What is malformed in a scheme: the scheme itself, or the first header that is not in order. -/
inductive FirstOffence : Json → BindingFault → Prop
  | notHeaders {scheme : Json} (hscheme : ∀ headers, scheme ≠ .object headers) :
      FirstOffence scheme .notHeaders
  | header {headers : List (String × Json)} {before after : List String} {header : String}
      {value : Json} {fault : BindingFault}
      (hsplit : firstNames headers = before ++ header :: after)
      (hbefore : ∀ h ∈ before, ∃ value, LastWritten headers h value ∧ HeaderInOrder h value)
      (hvalue : LastWritten headers header value) (hheader : HeaderOffence header value fault) :
      FirstOffence (.object headers) fault

/-! ## Reading a scheme -/

theorem kind_eq_empty_iff {header : String} :
    (Header.ofText header).kind = "" ↔ IsBlank header := by
  unfold IsBlank
  rw [← Text.words_eq_nil_iff]
  unfold Header.ofText
  cases hwords : Text.words header.toList with
  | nil => simp
  | cons kind parameters =>
      have hkind : kind ∈ Text.words header.toList := by
        rw [hwords]
        exact List.mem_cons_self
      have hne : kind ≠ [] := by simpa using (List.mem_filter.1 hkind).2
      simpa using hne

theorem readCommand_eq_ok_iff {header : Header} {pattern : String} {value : Json}
    {spec : BindingSpec} :
    readCommand header (pattern, value) = .ok spec ↔
      ∃ command, value = .text command ∧ spec = ⟨header, pattern, command⟩ := by
  unfold readCommand
  cases value <;> simp [eq_comm]

theorem readCommand_eq_error_iff {header : Header} {pattern : String} {value : Json}
    {fault : BindingFault} :
    readCommand header (pattern, value) = .error fault ↔
      (∀ text, value ≠ .text text) ∧ fault = .notCommand pattern := by
  unfold readCommand
  cases value <;> simp [eq_comm]

theorem readHeader_of_blank {header : String} (h : IsBlank header) (value : Json) :
    readHeader (header, value) = .error .blankHeader := by
  unfold readHeader
  exact if_pos (kind_eq_empty_iff.2 h)

theorem readHeader_of_not_blank {header : String} (h : ¬ IsBlank header) (value : Json) :
    readHeader (header, value) =
      match value with
      | .object patterns => (ofList patterns).mapM (readCommand (.ofText header))
      | _ => .error (.notPatterns header) := by
  unfold readHeader
  exact if_neg (mt kind_eq_empty_iff.1 h)

theorem readHeader_eq_ok_iff {header : String} {value : Json} {specs : List BindingSpec} :
    readHeader (header, value) = .ok specs ↔
      ¬ IsBlank header ∧ ∃ patterns, value = .object patterns ∧
        List.Forall₂ (SpecOf (.ofText header) patterns) (firstNames patterns) specs := by
  by_cases hheader : IsBlank header
  · simp [readHeader_of_blank hheader, hheader]
  · rw [readHeader_of_not_blank hheader]
    cases value with
    | object patterns =>
        have hspec (name : String) (spec : BindingSpec) :
            (∃ value, LastWritten patterns name value ∧
              readCommand (.ofText header) (name, value) = .ok spec) ↔
              SpecOf (.ofText header) patterns name spec := by
          simp only [readCommand_eq_ok_iff, SpecOf]
          constructor
          · rintro ⟨_, hvalue, command, rfl, rfl⟩
            exact ⟨command, hvalue, rfl⟩
          · rintro ⟨command, hvalue, rfl⟩
            exact ⟨_, hvalue, command, rfl, rfl⟩
        simp only [mapM_eq_ok_iff, forall₂_ofList_iff, hspec]
        simp [hheader]
    | _ => simp

/-- **There are specifications under a header exactly if it is in order.** -/
theorem exists_readHeader_eq_ok_iff {header : String} {value : Json} :
    (∃ specs, readHeader (header, value) = .ok specs) ↔ HeaderInOrder header value := by
  unfold HeaderInOrder
  by_cases hheader : IsBlank header
  · simp [readHeader_of_blank hheader, hheader]
  · rw [readHeader_of_not_blank hheader]
    cases value with
    | object patterns =>
        simp only [exists_mapM_eq_ok_iff, forall_mem_ofList_iff, readCommand_eq_ok_iff]
        simp [hheader]
    | _ => simp

theorem readHeader_eq_error_iff {header : String} {value : Json} {fault : BindingFault} :
    readHeader (header, value) = .error fault ↔ HeaderOffence header value fault := by
  by_cases hheader : IsBlank header
  · rw [readHeader_of_blank hheader]
    constructor
    · rintro ⟨⟩
      exact .blank hheader
    · intro h
      cases h with
      | blank => rfl
      | notPatterns hno => exact absurd hheader hno
      | notCommand hno => exact absurd hheader hno
  · rw [readHeader_of_not_blank hheader]
    constructor
    · intro h
      cases value with
      | object patterns =>
          obtain ⟨before, pattern, after, command, hsplit, hbefore, hcommand, hfault⟩ :=
            exists_split_ofList_iff.1 (mapM_eq_error_iff.1 h)
          obtain ⟨hno, rfl⟩ := readCommand_eq_error_iff.1 hfault
          refine .notCommand hheader hsplit (fun p hp => ?_) hcommand hno
          obtain ⟨_, hvalue, spec, hspec⟩ := hbefore p hp
          obtain ⟨text, rfl, -⟩ := readCommand_eq_ok_iff.1 hspec
          exact ⟨text, hvalue⟩
      | _ =>
          cases h
          exact .notPatterns hheader nofun
    · intro h
      cases h with
      | blank h => exact absurd h hheader
      | notPatterns _ hvalue =>
          cases value with
          | object patterns => exact absurd rfl (hvalue patterns)
          | _ => rfl
      | @notCommand patterns before after pattern command _ hsplit hbefore hcommand hno =>
          refine mapM_eq_error_iff.2 (exists_split_ofList_iff.2
            ⟨before, pattern, after, command, hsplit, fun p hp => ?_, hcommand, ?_⟩)
          · obtain ⟨text, htext⟩ := hbefore p hp
            exact ⟨.text text, htext, _, readCommand_eq_ok_iff.2 ⟨text, rfl, rfl⟩⟩
          · exact readCommand_eq_error_iff.2 ⟨hno, rfl⟩

/-- **Reading a scheme gives what it lists.** -/
theorem readScheme_eq_ok_iff {scheme : Json} {specs : List BindingSpec} :
    readScheme scheme = .ok specs ↔ ∃ headers, scheme = .object headers ∧ Lists headers specs := by
  unfold readScheme
  cases scheme with
  | object headers =>
      have hspecs (name : String) (group : List BindingSpec) :
          (∃ value, LastWritten headers name value ∧ readHeader (name, value) = .ok group) ↔
            SpecsOf headers name group := by
        simp only [readHeader_eq_ok_iff, SpecsOf]
        constructor
        · rintro ⟨_, hvalue, hheader, patterns, rfl, hgroup⟩
          exact ⟨hheader, patterns, hvalue, hgroup⟩
        · rintro ⟨hheader, patterns, hvalue, hgroup⟩
          exact ⟨_, hvalue, hheader, patterns, rfl, hgroup⟩
      simp only [map_eq_ok_iff, mapM_eq_ok_iff, forall₂_ofList_iff, hspecs]
      simp [Lists, eq_comm]
  | _ => simp

/-- **Every scheme in order lists something, and no other scheme does.** -/
theorem exists_readScheme_eq_ok_iff {scheme : Json} :
    (∃ specs, readScheme scheme = .ok specs) ↔
      ∃ headers, scheme = .object headers ∧ InOrder headers := by
  unfold readScheme InOrder
  cases scheme with
  | object headers =>
      have hmap : (∃ specs, ((ofList headers).mapM readHeader).map List.flatten = .ok specs) ↔
          ∃ groups, (ofList headers).mapM readHeader = .ok groups := by
        simp [map_eq_ok_iff]
      simp only [hmap, exists_mapM_eq_ok_iff, forall_mem_ofList_iff, exists_readHeader_eq_ok_iff]
      simp
  | _ => simp

/-- **What is malformed first is reported.** -/
theorem readScheme_eq_error_iff {scheme : Json} {fault : BindingFault} :
    readScheme scheme = .error fault ↔ FirstOffence scheme fault := by
  unfold readScheme
  constructor
  · intro h
    cases scheme with
    | object headers =>
        obtain ⟨before, header, after, value, hsplit, hbefore, hvalue, hfault⟩ :=
          exists_split_ofList_iff.1 (mapM_eq_error_iff.1 (map_eq_error_iff.1 h))
        simp only [exists_readHeader_eq_ok_iff] at hbefore
        exact .header hsplit hbefore hvalue (readHeader_eq_error_iff.1 hfault)
    | _ =>
        cases h
        exact .notHeaders nofun
  · intro h
    cases h with
    | notHeaders hscheme =>
        cases scheme with
        | object headers => exact absurd rfl (hscheme headers)
        | _ => rfl
    | @header headers before after header value fault hsplit hbefore hvalue hheader =>
        simp only [← exists_readHeader_eq_ok_iff] at hbefore
        exact map_eq_error_iff.2 (mapM_eq_error_iff.2 (exists_split_ofList_iff.2 ⟨before, header,
          after, value, hsplit, hbefore, hvalue, readHeader_eq_error_iff.2 hheader⟩))

/-! ## Where a text writes its schemes -/

/-- The schemes are the last value of `expressions`, and the scheme has this value last in it. -/
def SchemeWritten (written : List (String × Json)) (scheme : String) (value : Json) : Prop :=
  ∃ schemes, LastWritten written "expressions" (.object schemes) ∧ LastWritten schemes scheme value

theorem SchemeWritten.unique {written : List (String × Json)} {scheme : String}
    {value value' : Json} (h : SchemeWritten written scheme value)
    (h' : SchemeWritten written scheme value') : value = value' := by
  obtain ⟨schemes, hschemes, hvalue⟩ := h
  obtain ⟨schemes', hschemes', hvalue'⟩ := h'
  cases hschemes.unique hschemes'
  exact hvalue.unique hvalue'

/-- Only one member of a configuration is about its schemes. -/
theorem Draft.schemes_take {d d' : Draft} {name : String} {value : Json}
    (h : d.take (name, value) = .ok d') :
    (name ≠ "expressions" ∧ d'.schemes = d.schemes) ∨
      name = "expressions" ∧ ∃ schemes, value = .object schemes ∧ d'.schemes = .ofList schemes := by
  unfold Draft.take at h
  split at h
  case h_5 hname =>
    obtain ⟨members, hmembers, rfl⟩ := map_eq_ok_iff.1 h
    unfold readSchemes at hmembers
    split at hmembers
    · next schemes hvalue =>
        cases hmembers
        exact Or.inr ⟨hname, schemes, hvalue, rfl⟩
    · cases hmembers
  case h_6 _ _ _ _ hname =>
    cases h
    exact Or.inl ⟨hname, rfl⟩
  all_goals
    next hname =>
      obtain ⟨_, _, rfl⟩ := map_eq_ok_iff.1 h
      refine Or.inl ⟨?_, rfl⟩
      rintro rfl
      simp at hname

/-- Members are taken one by one, each name once. -/
theorem Draft.schemes_foldlM_take {members : Members Json} (hnodup : (members.map Prod.fst).Nodup)
    {d d' : Draft} (h : members.foldlM Draft.take d = .ok d') :
    (members.get? "expressions" = none ∧ d'.schemes = d.schemes) ∨
      ∃ schemes, members.get? "expressions" = some (.object schemes) ∧
        d'.schemes = .ofList schemes := by
  induction members generalizing d with
  | nil =>
      cases h
      exact Or.inl ⟨rfl, rfl⟩
  | cons m members ih =>
      obtain ⟨name, value⟩ := m
      rw [List.map_cons, List.nodup_cons] at hnodup
      rw [List.foldlM_cons] at h
      obtain ⟨d₁, hd₁, hrest⟩ := bind_eq_ok_iff.1 h
      have hlater := ih hnodup.2 hrest
      rw [get?_cons]
      rcases Draft.schemes_take hd₁ with ⟨hname, hd⟩ | ⟨rfl, schemes, rfl, hd⟩
      · rwa [if_neg (Ne.symm hname), ← hd]
      · -- the name does not come again, so nothing later touches the schemes
        have hnone : Members.get? members "expressions" = none := get?_eq_none_iff.2 hnodup.1
        simp only [hnone, true_and, reduceCtorEq, false_and, exists_false, or_false] at hlater
        exact Or.inr ⟨schemes, if_pos rfl, hlater.trans hd⟩

/-- **The schemes of a text are the last ones that it writes.** -/
theorem Settings.ofText_schemes {text : String} {s : Settings} (h : ofText text = .ok s) :
    ∃ written, Json.read (stripComments text.toList) = .ok (.object written) ∧
      ∀ scheme value, s.schemes.get? scheme = some value ↔ SchemeWritten written scheme value := by
  obtain ⟨members, hlayer, hmembers⟩ := bind_eq_ok_iff.1 h
  obtain ⟨written, hread, rfl⟩ := readLayer_eq_ok_iff.1 hlayer
  obtain ⟨draft, hdraft, hcheck⟩ := ofMembers_eq_ok_iff.1 hmembers
  obtain ⟨-, -, -, -, hschemes⟩ := Draft.check_eq_ok_iff.1 hcheck
  refine ⟨written, hread, fun scheme value => ?_⟩
  rw [← hschemes]
  unfold SchemeWritten
  rcases Draft.schemes_foldlM_take (nodup_ofList written) hdraft with
    ⟨hnone, hd⟩ | ⟨schemes, hsome, hd⟩
  · have hno : ∀ v, ¬ LastWritten written "expressions" v := by
      intro v hv
      rw [get?_ofList_eq_some_iff.2 hv] at hnone
      cases hnone
    simp [hd, hno, get?]
  · have hlast := get?_ofList_eq_some_iff.1 hsome
    rw [hd, get?_ofList_eq_some_iff]
    constructor
    · intro hvalue
      exact ⟨schemes, hlast, hvalue⟩
    · rintro ⟨schemes', hlast', hvalue⟩
      cases hlast'.unique hlast
      exact hvalue

/-- **A scheme lists all its commands, or fails as a whole.** The bindings of a scheme are what is
listed for it in the text that the settings come from: a specification for every pattern of every
header, in the order of writing. There are bindings exactly if every entry of the scheme is in
order. If there are none, either the text has no such scheme, or the first entry out of order is
reported. -/
theorem Settings.bindings_written {text : String} {s : Settings} (h : ofText text = .ok s)
    (scheme : String) :
    ∃ written, Json.read (stripComments text.toList) = .ok (.object written) ∧
      (∀ specs, s.bindings scheme = .ok specs ↔
        ∃ headers, SchemeWritten written scheme (.object headers) ∧ Lists headers specs) ∧
      ((∃ specs, s.bindings scheme = .ok specs) ↔
        ∃ headers, SchemeWritten written scheme (.object headers) ∧ InOrder headers) ∧
      ∀ e, s.bindings scheme = .error e ↔
        (e = .missingScheme scheme ∧ ∀ value, ¬ SchemeWritten written scheme value) ∨
        ∃ value fault, SchemeWritten written scheme value ∧ FirstOffence value fault ∧
          e = .badBinding scheme fault := by
  obtain ⟨written, hread, hschemes⟩ := ofText_schemes h
  refine ⟨written, hread, ?_⟩
  simp only [← hschemes]
  cases hget : s.schemes.get? scheme with
  | none =>
      rw [bindings_of_get?_eq_none hget]
      simp [eq_comm]
  | some value =>
      rw [bindings_of_get?_eq_some hget]
      simp only [mapError_eq_ok_iff, mapError_eq_error_iff, exists_readScheme_eq_ok_iff,
        readScheme_eq_error_iff]
      refine ⟨fun specs => ?_, ?_, fun e => ?_⟩
      · simp [readScheme_eq_ok_iff]
      · simp
      · simp [eq_comm]

/-- Of `default` the second value counts. In it `shell` stands before `dummy`, and `k` before `j`,
each with what is written for it in the end. Of `broken` the number under `c` is reported, neither
the one after it nor the blank header. -/
theorem Settings.bindings_written_repeated :
    let text := "\x7b\"expressions\": \x7b\"default\": \x7b\x7d, \"broken\": \x7b" ++
      "\"dummy\": \x7b\"a\": \"\"\x7d, \"shell\": \x7b\"b\": \"1\", \"c\": 2, \"d\": 3\x7d, " ++
      "\" \": 4\x7d, \"default\": \x7b\"shell\": 5, " ++
      "\"dummy x\": \x7b\"k\": \"1\", \"j\": \"2\", \"k\": \"3\"\x7d, " ++
      "\"shell\": \x7b\"a\": \"\"\x7d\x7d\x7d\x7d"
    let shell : Header := ⟨"shell", []⟩
    let dummy : Header := ⟨"dummy", [("x", "")]⟩
    let specs : List BindingSpec := [⟨shell, "a", ""⟩, ⟨dummy, "k", "3"⟩, ⟨dummy, "j", "2"⟩]
    ∃ s written headers broken, ofText text = .ok s ∧
      Json.read (stripComments text.toList) = .ok (.object written) ∧
      s.bindings "default" = .ok specs ∧
      SchemeWritten written "default" (.object headers) ∧ Lists headers specs ∧ InOrder headers ∧
      s.bindings "broken" = .error (.badBinding "broken" (.notCommand "c")) ∧
      SchemeWritten written "broken" broken ∧ FirstOffence broken (.notCommand "c") ∧
      s.bindings "other" = .error (.missingScheme "other") := by
  intro text shell dummy specs
  -- neither settings nor their errors have a decidable equality, but what is read of a scheme has
  have hrun : ((ofText text).toOption.map fun s =>
      ["default", "broken", "other"].map fun scheme => (s.schemes.get? scheme).map readScheme) =
      some [some (.ok specs), some (.error (.notCommand "c")), none] := by
    decide +kernel
  obtain ⟨s, hs, hrun⟩ := Option.map_eq_some_iff.1 hrun
  have h := toOption_eq_some_iff.1 hs
  simp only [List.map_cons, List.map_nil, List.cons.injEq, and_true, Option.map_eq_some_iff,
    Option.map_eq_none_iff] at hrun
  obtain ⟨⟨value, hvalue, hspecs⟩, ⟨broken, hbroken, hfault⟩, hother⟩ := hrun
  have hdefault : s.bindings "default" = .ok specs := by
    rw [bindings_of_get?_eq_some hvalue, hspecs]
    rfl
  have herror : s.bindings "broken" = .error (.badBinding "broken" (.notCommand "c")) := by
    rw [bindings_of_get?_eq_some hbroken, hfault]
    rfl
  obtain ⟨written, hread, hok, hgood, -⟩ := bindings_written h "default"
  obtain ⟨written', hread', -, -, hbad⟩ := bindings_written h "broken"
  cases hread.symm.trans hread'
  obtain ⟨headers, hheaders, hlists⟩ := (hok _).1 hdefault
  obtain ⟨headers', hheaders', horder⟩ := hgood.1 ⟨_, hdefault⟩
  cases hheaders.unique hheaders'
  rcases (hbad _).1 herror with ⟨hno, -⟩ | ⟨value', fault, hvalue', hfirst, hbadBinding⟩
  · cases hno
  · cases hbadBinding
    exact ⟨s, written, headers, value', h, hread, hdefault, hheaders, hlists, horder, herror,
      hvalue', hfirst, bindings_of_get?_eq_none hother⟩

end Config

end KeyChord
