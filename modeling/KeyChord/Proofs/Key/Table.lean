import KeyChord.Pattern.Node
import KeyChord.Proofs.Key.Spelling

/-!
# The short names of codes

A code is shown by its short name: the kernel's name of it without the prefix and in small letters.
Read in the same namespace the short name gives the code back, for the kernel writes its names in
capitals, digits and underscores, and gives no name to two codes. Both are facts about the table,
which is why they are computed; all else follows from them.

* `names_nodup`: no name is in the table twice.
* `isCapital_of_mem_names`: what names are made of.
* `codeOf?_of_nameOf?`: the name of a code is looked up as this code.
* `Namespace.resolve?_of_shortName?`: so is its short name, in its namespace.
* `Namespace.isNameChar_of_shortName?`: a short name may stand in the brackets of a pattern.
-/

namespace KeyChord.Key

/-! ## No name is listed twice -/

/-- The bytes of a name as the digits of a number, reduced by a modulus that keeps the names of the
table apart. Comparing each name with every other would take too long. -/
def numeral (name : String) : Nat :=
  name.toByteArray.data.toList.foldl (fun n byte => 128 * n + byte.toNat) 1 % 14219

/-- Whether no number is listed twice and none has been seen; those seen are the bits of `seen`. -/
def distinctFrom (seen : Nat) : List Nat → Bool
  | [] => true
  | k :: ks => !seen.testBit k && distinctFrom (seen ||| 1 <<< k) ks

theorem nodup_of_distinctFrom {ks : List Nat} {seen : Nat} (h : distinctFrom seen ks) :
    ks.Nodup ∧ ∀ k ∈ ks, seen.testBit k = false := by
  induction ks generalizing seen with
  | nil => exact ⟨List.nodup_nil, fun k hk => absurd hk List.not_mem_nil⟩
  | cons k ks ih =>
      obtain ⟨hk, hks⟩ := Bool.and_eq_true_iff.1 h
      obtain ⟨hnodup, hseen⟩ := ih hks
      have hnew (j : Nat) (hj : j ∈ ks) : seen.testBit j = false ∧ k ≠ j := by
        have hbit := hseen j hj
        rw [Nat.testBit_or, Nat.one_shiftLeft, Nat.testBit_two_pow, Bool.or_eq_false_iff] at hbit
        exact ⟨hbit.1, by simpa using hbit.2⟩
      refine ⟨List.nodup_cons.2 ⟨fun hmem => (hnew k hmem).2 rfl, hnodup⟩, ?_⟩
      intro j hj
      rcases List.mem_cons.1 hj with rfl | hj
      · simpa using hk
      · exact (hnew j hj).1

/-- No name is in the table twice. -/
theorem names_nodup : (names.map Prod.fst).Nodup := by
  have hdistinct : distinctFrom 0 (names.map fun entry => numeral entry.1) := by decide +kernel
  have hnodup := (nodup_of_distinctFrom hdistinct).1
  rw [← Function.comp_def numeral Prod.fst, ← List.map_map] at hnodup
  exact hnodup.of_map

theorem codeOf?_of_mem_names {name : String} {code : Code} (h : (name, code) ∈ names) :
    codeOf? name = some code := by
  obtain ⟨before, after, hnames⟩ := List.append_of_mem h
  refine List.lookup_eq_some_iff.2 ⟨before, after, hnames, fun entry hentry => ?_⟩
  have hnodup := names_nodup
  rw [hnames, List.map_append, List.map_cons, List.nodup_middle, List.nodup_cons] at hnodup
  have hmem : entry.1 ∈ (before ++ after).map Prod.fst :=
    List.mem_map_of_mem (List.mem_append_left after hentry)
  rw [← List.map_append] at hnodup
  exact bne_iff_ne.2 fun heq => hnodup.1 (heq ▸ hmem)

theorem mem_names_of_nameOf? {name : String} {code : Code} (h : nameOf? code = some name) :
    (name, code) ∈ names := by
  obtain ⟨entry, hfind, rfl⟩ := Option.map_eq_some_iff.1 h
  have hcode : entry.2 = code := by simpa using List.find?_some hfind
  rw [← hcode]
  exact List.mem_of_find?_eq_some hfind

/-- **The name of a code is looked up as this code.** -/
theorem codeOf?_of_nameOf? {name : String} {code : Code} (h : nameOf? code = some name) :
    codeOf? name = some code :=
  codeOf?_of_mem_names (mem_names_of_nameOf? h)

/-! ## What names are made of -/

/-- A character of the kernel's names. -/
def isCapital (c : Char) : Bool :=
  c.isUpper || c.isDigit || c = '_'

theorem isCapital_iff {c : Char} : isCapital c ↔
    48 ≤ c.toNat ∧ c.toNat ≤ 57 ∨ 65 ≤ c.toNat ∧ c.toNat ≤ 90 ∨ c.toNat = 95 := by
  have hval : c.val.toNat = c.toNat := rfl
  simp only [isCapital, Char.isUpper, Char.isDigit, ge_iff_le, UInt32.le_iff_toNat_le, hval,
    ← Char.toNat_inj, Bool.or_eq_true, Bool.and_eq_true, decide_eq_true_eq, Char.reduceVal,
    Char.reduceToNat, UInt32.reduceToNat]
  omega

/-- A byte of a capital, a digit or an underscore. -/
def isCapitalByte (byte : UInt8) : Bool :=
  48 ≤ byte && byte ≤ 57 || 65 ≤ byte && byte ≤ 90 || byte = 95

theorem isCapitalByte_iff {byte : UInt8} : isCapitalByte byte ↔
    48 ≤ byte.toNat ∧ byte.toNat ≤ 57 ∨ 65 ≤ byte.toNat ∧ byte.toNat ≤ 90 ∨ byte.toNat = 95 := by
  simp only [isCapitalByte, UInt8.le_iff_toNat_le, ← UInt8.toNat_inj, UInt8.reduceToNat,
    Bool.or_eq_true, Bool.and_eq_true, decide_eq_true_eq]
  omega

/-- The first byte of a character is the character itself or greater than those of all ASCII
characters. -/
theorem exists_first_byte (c : Char) :
    ∃ byte ∈ String.utf8EncodeChar c, byte.toNat = c.toNat ∨ 192 ≤ byte.toNat := by
  have hval : c.val.toNat = c.toNat := rfl
  have hlarge {k m : Nat} {later : List UInt8} (hk : k < 64) :
      ∃ byte ∈ UInt8.ofNat (k + 192) :: later, byte.toNat = m ∨ 192 ≤ byte.toNat := by
    refine ⟨_, List.mem_cons_self, Or.inr ?_⟩
    rw [UInt8.toNat_ofNat']
    omega
  rw [String.utf8EncodeChar.eq_1]
  split
  · refine ⟨_, List.mem_cons_self, Or.inl ?_⟩
    rw [UInt8.toNat_ofNat']
    omega
  · split
    · exact hlarge (by omega)
    · split
      · exact hlarge (k := c.val.toNat / 4096 % 16 + 32) (by omega)
      · exact hlarge (k := c.val.toNat / 262144 % 8 + 48) (by omega)

theorem isCapital_of_bytes {c : Char}
    (h : ∀ byte ∈ String.utf8EncodeChar c, isCapitalByte byte) : isCapital c := by
  obtain ⟨byte, hmem, hbyte⟩ := exists_first_byte c
  have hrange := isCapitalByte_iff.1 (h byte hmem)
  have hc : c.toNat = byte.toNat := by omega
  rw [isCapital_iff, hc]
  exact hrange

/-- The names of the table are made of capitals, digits and underscores. Their bytes are looked at,
which is much faster than to look at their characters. -/
theorem isCapital_of_mem_names {name : String} {code : Code} (h : (name, code) ∈ names) {c : Char}
    (hc : c ∈ name.toList) : isCapital c := by
  have hbytes : (names.all fun entry => entry.1.toByteArray.data.toList.all isCapitalByte) := by
    decide +kernel
  have hname : name.toByteArray.data.toList.all isCapitalByte := List.all_eq_true.1 hbytes _ h
  refine isCapital_of_bytes fun byte hbyte => List.all_eq_true.1 hname byte ?_
  have hencode : name.toByteArray = name.toList.utf8Encode := String.utf8Encode_toList.symm
  rw [hencode, List.utf8Encode.eq_1, List.data_toByteArray]
  exact List.mem_flatMap.2 ⟨c, hc, hbyte⟩

/-- Capitalising the small letter of such a character gives it back, and the small letter may stand
in a bracketed name. -/
theorem toLower_of_isCapital {c : Char} (h : isCapital c) :
    c.toLower.toUpper = c ∧ Pattern.isNameChar c.toLower := by
  have hsmall : ∀ k < 96, isCapital (Char.ofNat k) →
      (Char.ofNat k).toLower.toUpper = Char.ofNat k ∧
        Pattern.isNameChar (Char.ofNat k).toLower := by
    decide +kernel
  have hrange := isCapital_iff.1 h
  rw [← Char.ofNat_toNat c] at h ⊢
  exact hsmall c.toNat (by omega) h

/-! ## Short names -/

namespace Namespace

variable {n : Namespace} {code : Code} {short : String}

/-- The name of a code that has a short name. -/
theorem exists_of_shortName? (h : n.shortName? code = some short) :
    ∃ letters, nameOf? code = some (String.ofList (n.kernelStem ++ letters)) ∧
      short = String.ofList (Text.asciiLower letters) ∧ ∀ c ∈ letters, isCapital c := by
  obtain ⟨name, hname, h⟩ := Option.bind_eq_some_iff.1 h
  obtain ⟨letters, hletters, h⟩ := Option.bind_eq_some_iff.1 h
  have hstem := List.isPrefixOf?_eq_some_iff_append_eq.1 hletters
  refine ⟨letters, ?_, (Option.some.inj h).symm, fun c hc => ?_⟩
  · rw [hstem, String.ofList_toList, hname]
  · refine isCapital_of_mem_names (mem_names_of_nameOf? hname) ?_
    rw [← hstem]
    exact List.mem_append_right _ hc

/-- **A short name may stand in the brackets of a pattern.** -/
theorem isNameChar_of_shortName? (h : n.shortName? code = some short) :
    ∀ c ∈ short.toList, Pattern.isNameChar c := by
  obtain ⟨letters, -, rfl, hletters⟩ := exists_of_shortName? h
  rw [String.toList_ofList, Text.asciiLower]
  intro c hc
  obtain ⟨letter, hletter, rfl⟩ := List.mem_map.1 hc
  exact (toLower_of_isCapital (hletters letter hletter)).2

/-- **In its namespace, the short name of a code means this code.** -/
theorem resolve?_of_shortName? (h : n.shortName? code = some short) :
    n.resolve? short = some code := by
  have hchars := isNameChar_of_shortName? h
  obtain ⟨letters, hname, rfl, hletters⟩ := exists_of_shortName? h
  have hbare : bareName (Text.asciiLower letters) = Text.asciiLower letters := by
    have hunbracketed : Unbracketed (String.ofList (Text.asciiLower letters)) := by
      refine ⟨fun hfirst => ?_, fun hlast => ?_⟩
      · cases hchars '<' (List.mem_of_mem_head? hfirst)
      · cases hchars '>' (List.mem_of_mem_getLast? hlast)
    simpa using bareName_of_unbracketed hunbracketed
  have hupper : Text.asciiUpper (Text.asciiLower letters) = letters := by
    rw [Text.asciiUpper, Text.asciiLower, List.map_map]
    exact (List.map_congr_left fun c hc => (toLower_of_isCapital (hletters c hc)).1).trans
      (List.map_id letters)
  rw [resolve?, kernelName, String.toList_ofList, hbare, hupper]
  exact codeOf?_of_nameOf? hname

end Namespace

end KeyChord.Key
