import KeyChord.Proofs.Device.Listing
import KeyChord.Proofs.Device.Toggle
import Mathlib.Data.List.Nodup
import Mathlib.Data.Nat.Digits.Defs
import Mathlib.Data.String.Basic

/-!
# The device that reads a node

The display server lists its devices and the properties of each. The device that reads a node is
found by going through that list: it is the first whose node is the same path, and what is
remembered of it is the state that it is really in.

* `Listed`: a device with the properties that say its state and its node.
* `Row`, `devices`: the lines of the list of devices.
* `Shows`: a program that lists these devices, each of them always or never.
* `display`, `shows_display`: there is such a program for every list of devices.
* `Toggle.run_ofPath_of_shows`: **which device is found, what is remembered of it, and all that is
  asked for this.**

The state and the node are looked up by the front of a line once its blanks are gone. So a property
whose name has a blank before `Device Enabled` is taken for the state of its device
(`Toggle.ofPath_reads_indented_name`); `Listed` leaves such names out.
-/

namespace KeyChord.Device

variable {t : Tool} {path : List Char}

/-! ## What the display server lists -/

/-- A device of the display server: its number, the state that it is in, its node if it has one, and
its listing, which says just that. A device may also refuse to be listed. -/
structure Listed where
  xid : UInt32
  enabled : Bool
  node : Option (List Char)
  title : Option (List Char)
  properties : List Property
  answers : Bool
  onLines : OnLines title properties
  saysState : Lists properties enabledProperty.toList (flag enabled)
  saysNode : ∀ n ∈ node, Quotable n ∧ Lists properties nodeProperty.toList (quoted n)
  saysNoNode : node = none → Omits properties nodeProperty.toList

namespace Listed

/-- The listing of the device, as it is printed. -/
def printed (d : Listed) : String :=
  String.ofList (listing d.title d.properties)

/-- The call that lists the properties of the device. -/
def call (d : Listed) : Arguments :=
  propertiesCall d.xid

/-- The device can be listed and has the node `path`. -/
def Reads (d : Listed) (path : List Char) : Prop :=
  d.answers = true ∧ ∃ n ∈ d.node, Text.samePath n path = true

theorem enabled?_printed (d : Listed) : enabled? d.printed.toList = some d.enabled := by
  unfold printed
  rw [String.toList_ofList, enabled?_of_lists d.onLines d.saysState]

theorem node?_printed (d : Listed) : node? d.printed.toList = d.node := by
  unfold printed
  rw [String.toList_ofList]
  cases hnode : d.node with
  | none => exact node?_of_omits d.onLines (d.saysNoNode hnode)
  | some n =>
      obtain ⟨hquotable, hlists⟩ := d.saysNode n hnode
      exact node?_of_lists d.onLines hquotable hlists

end Listed

/-- A line of the list of devices: the number of a device, or a text that spells no number. -/
inductive Row where
  | device (d : Listed)
  | other (line : List Char) (oneLine : '\n' ∉ line) (noNumber : ¬ Text.Numeral (Text.trim line))

/-- A line as it is printed. -/
def Row.line : Row → List Char
  | device d => Nat.toDigits 10 d.xid.toNat
  | other line _ _ => line

/-- The device whose number stands on a line. -/
def Row.device? : Row → Option Listed
  | device d => some d
  | other _ _ _ => none

/-- The devices in a list, in its order. -/
def devices (rows : List Row) : List Listed :=
  rows.filterMap Row.device?

theorem Row.not_mem_line (row : Row) : '\n' ∉ row.line := by
  cases row with
  | device d => exact Text.not_mem_toDigits rfl d.xid.toNat
  | other line oneLine noNumber => exact oneLine

theorem idOnLine?_line (row : Row) : idOnLine? row.line = row.device?.map Listed.xid := by
  cases row with
  | device d => exact idOnLine?_toDigits d.xid
  | other line oneLine noNumber => exact idOnLine?_eq_none noNumber

/-- The numbers that are read off the list are those of the devices. -/
theorem ids_rows (rows : List Row) :
    ids (Text.unlines (rows.map Row.line)) = (devices rows).map Listed.xid := by
  have hlines : ∀ l ∈ rows.map Row.line, '\n' ∉ l := fun l hl => by
    obtain ⟨row, -, rfl⟩ := List.mem_map.1 hl
    exact row.not_mem_line
  have hrow : idOnLine? ∘ Row.line = fun row => row.device?.map Listed.xid :=
    funext idOnLine?_line
  rw [ids_unlines hlines, List.filterMap_map, hrow, devices, List.map_filterMap]

/-- A program that lists these devices whatever it was asked before: the numbers of all of them, and
the properties of each that can be listed. -/
structure Shows (t : Tool) (rows : List Row) : Prop where
  numbers : ∀ past, ∃ complaint, { t with past := past }.replyTo idsCall =
    .ended (String.ofList (Text.unlines (rows.map Row.line))) complaint (.exited 0)
  answered : ∀ d ∈ devices rows, d.answers = true → ∀ past, ∃ complaint,
    { t with past := past }.replyTo d.call = .ended d.printed complaint (.exited 0)
  refused : ∀ d ∈ devices rows, d.answers = false → ∀ past output complaint,
    { t with past := past }.replyTo d.call ≠ .ended output complaint (.exited 0)

variable {rows : List Row}

/-! ## A program for every list -/

/-- The program that lists these devices and does nothing else. -/
def display (rows : List Row) : Tool where
  answer _ args :=
    if args = idsCall then
      .ended (String.ofList (Text.unlines (rows.map Row.line))) "" (.exited 0)
    else
      match (devices rows).find? fun d => d.call = args with
      | some d => if d.answers then .ended d.printed "" (.exited 0) else .ended "" "" (.exited 1)
      | none => .ended "" "" (.exited 1)

theorem propertiesCall_inj {x y : UInt32} (h : propertiesCall x = propertiesCall y) : x = y := by
  have hshown : String.ofList (Nat.toDigits 10 x.toNat) = String.ofList (Nat.toDigits 10 y.toNat) :=
    (List.cons.inj (List.cons.inj h).2).1
  have hx := idOnLine?_toDigits x
  rw [String.ofList_inj.1 hshown, idOnLine?_toDigits] at hx
  exact (Option.some.inj hx).symm

theorem utf8ByteSize_le (s : String) : s.utf8ByteSize ≤ 4 * s.length := by
  have hlist (cs : List Char) : String.utf8Len cs ≤ 4 * cs.length := by
    induction cs with
    | nil => exact Nat.le_refl 0
    | cons c cs ih =>
        have hc := c.utf8Size_le_four
        rw [String.utf8Len, List.length_cons]
        omega
  rw [← String.ofList_toList (s := s), String.utf8ByteSize_ofList, String.length_ofList]
  exact hlist s.toList

/-- The number of a device has at most ten digits. -/
theorem utf8ByteSize_toString_le (xid : UInt32) : (toString xid).utf8ByteSize ≤ 40 := by
  have hlength : (toString xid).length ≤ 10 :=
    Nat.repr_length xid.toNat 10 (by decide) (xid.toNat_lt.trans (by decide))
  have hbytes := utf8ByteSize_le (toString xid)
  omega

theorem zero_not_mem_propertiesCall (xid : UInt32) :
    (propertiesCall xid).any (fun a => a.toList.contains '\x00') = false := by
  have hshown : (toString xid).toList = Nat.toDigits 10 xid.toNat := String.toList_ofList
  have hxid : (toString xid).toList.contains '\x00' = false := by
    rw [hshown]
    simpa using Text.not_mem_toDigits rfl xid.toNat
  rw [propertiesCall, List.any_cons, List.any_cons, hxid]
  decide

/-- A call that lists the properties of a device can be handed over. -/
theorem unfit?_propertiesCall (xid : UInt32) : Tool.unfit? [] (propertiesCall xid) = none := by
  have hsize := utf8ByteSize_toString_le xid
  have htext : (toString xid).utf8ByteSize ≤ Tool.maxText := hsize.trans (by decide)
  have hroom : 0 + 10 + Tool.textOverhead + (toString xid).utf8ByteSize + Tool.textOverhead ≤
      Tool.maxTexts := by
    simp only [Tool.textOverhead, Tool.maxTexts]
    omega
  have hname : "list-props".utf8ByteSize = 10 := by decide
  have htexts : Tool.textSizes [] (propertiesCall xid) = [10, (toString xid).utf8ByteSize] := by
    rw [← hname]
    rfl
  have hfit : Tool.textsFit (Tool.textSizes [] (propertiesCall xid)) = true := by
    rw [htexts, Tool.textsFit]
    simp only [List.all_cons, List.all_nil, List.foldl_cons, List.foldl_nil, Bool.and_true,
      Bool.and_eq_true, decide_eq_true_eq]
    exact ⟨⟨by decide, htext⟩, decide_eq_true hroom⟩
  unfold Tool.unfit?
  rw [zero_not_mem_propertiesCall, if_neg Bool.false_ne_true, if_pos hfit]

/-- The device that a call asks for is found among devices with distinct numbers. -/
theorem find?_call {ds : List Listed} (h : (ds.map Listed.xid).Nodup) {d : Listed} (hd : d ∈ ds) :
    (ds.find? fun e => e.call = d.call) = some d := by
  have hsome : (ds.find? fun e => e.call = d.call).isSome :=
    List.find?_isSome.2 ⟨d, hd, decide_eq_true rfl⟩
  obtain ⟨e, he⟩ := Option.isSome_iff_exists.1 hsome
  have hcall : e.call = d.call := by simpa using List.find?_some he
  have hsame : e = d :=
    List.inj_on_of_nodup_map h (List.mem_of_find?_eq_some he) hd (propertiesCall_inj hcall)
  rw [he, hsame]

/-- **Devices with distinct numbers can always be listed.** -/
theorem shows_display (h : ((devices rows).map Listed.xid).Nodup) : Shows (display rows) rows := by
  have hreply : ∀ d ∈ devices rows, ∀ past, { display rows with past := past }.replyTo d.call =
      if d.answers then .ended d.printed "" (.exited 0) else .ended "" "" (.exited 1) := by
    intro d hd past
    have hcall : d.call ≠ idsCall := fun heq => absurd (List.cons.inj heq).1 (by decide)
    rw [Tool.replyTo_of_fits (unfit?_propertiesCall d.xid)]
    dsimp only [display]
    rw [if_neg hcall, find?_call h hd]
  refine ⟨fun past => ⟨"", rfl⟩, fun d hd hanswers past => ⟨"", ?_⟩,
    fun d hd hrefuses past output complaint => ?_⟩
  · rw [hreply d hd, hanswers]
    rfl
  · rw [hreply d hd, hrefuses]
    nofun

/-! ## Asking for a device -/

theorem Shows.called (h : Shows t rows) (args : Arguments) : Shows (t.called args) rows :=
  ⟨h.numbers, h.answered, h.refused⟩

theorem Shows.calledAll (h : Shows t rows) (calls : List Arguments) :
    Shows (t.calledAll calls) rows := by
  induction calls generalizing t with
  | nil => exact h
  | cons args calls ih => exact ih (h.called args)

/-- Whether a device reads a node is told by its listing. -/
theorem Shows.repliesNode_iff (h : Shows t rows) {d : Listed} (hd : d ∈ devices rows) :
    repliesNode path d.xid (t.replyTo d.call) = true ↔ d.Reads path := by
  unfold repliesNode Listed.Reads
  cases hanswers : d.answers with
  | false =>
      have hprinted : ∀ output, Device.printed (propertiesCall d.xid) (t.replyTo d.call) ≠
          .ok output := fun output hok => by
        obtain ⟨complaint, hreply⟩ := printed_eq_ok_iff.1 hok
        exact h.refused d hd hanswers t.past output complaint hreply
      cases hreply : Device.printed (propertiesCall d.xid) (t.replyTo d.call) with
      | ok output => exact absurd hreply (hprinted output)
      | error e => simp
  | true =>
      obtain ⟨complaint, hreply⟩ := h.answered d hd hanswers t.past
      have hprinted : Device.printed (propertiesCall d.xid) (t.replyTo d.call) = .ok d.printed :=
        printed_eq_ok_iff.2 ⟨complaint, hreply⟩
      rw [hprinted]
      simp only [readsNode, d.node?_printed]
      cases d.node <;> simp

/-- The state of a device is told by its listing. -/
theorem Shows.run_ofXid (h : Shows t rows) {d : Listed} (hd : d ∈ devices rows)
    (hanswers : d.answers = true) :
    (Toggle.ofXid d.xid).run.run t = (.ok ⟨d.xid, d.enabled⟩, t.called d.call) := by
  obtain ⟨complaint, hreply⟩ := h.answered d hd hanswers t.past
  have hstate : repliesEnabled d.xid (t.replyTo d.call) = .ok d.enabled :=
    repliesEnabled_eq_ok_iff.2 ⟨d.printed, complaint, hreply, d.enabled?_printed⟩
  rw [Device.run_ofXid, show propertiesCall d.xid = d.call from rfl, hstate]
  rfl

/-! ## Going through the devices -/

/-- A device that does not read the node is asked once and passed by. -/
theorem Shows.run_firstReader_append (h : Shows t rows) {passed : List Listed}
    (hpassed : ∀ d ∈ passed, d ∈ devices rows ∧ ¬ d.Reads path) (xids : List UInt32) :
    (firstReader path (passed.map Listed.xid ++ xids)).run.run t =
      (firstReader path xids).run.run (t.calledAll (passed.map Listed.call)) := by
  induction passed generalizing t with
  | nil => rfl
  | cons d passed ih =>
      obtain ⟨⟨hd, hreads⟩, hpassed⟩ := List.forall_mem_cons.1 hpassed
      have hnot : ¬ repliesNode path d.xid (t.replyTo d.call) = true := fun hreplies =>
        hreads ((h.repliesNode_iff hd).1 hreplies)
      rw [List.map_cons, List.cons_append, run_firstReader_cons]
      exact (if_neg hnot).trans (ih (h.called d.call) hpassed)

/-- What the search for a device comes to, by going through the devices once they are listed. -/
theorem Shows.run_findReader (h : Shows t rows) {path : String} {found : Option UInt32} {t' : Tool}
    (hfirst : (firstReader path.toList ((devices rows).map Listed.xid)).run.run
      (t.called idsCall) = (.ok found, t')) :
    (findReader path).run.run t = (found.elim (.error (.xinput (.noReader path))) .ok, t') := by
  obtain ⟨complaint, hreply⟩ := h.numbers t.past
  have hprinted : printed idsCall (t.replyTo idsCall) =
      .ok (String.ofList (Text.unlines (rows.map Row.line))) :=
    printed_eq_ok_iff.2 ⟨complaint, hreply⟩
  rw [Device.run_findReader, hprinted]
  dsimp only
  rw [String.toList_ofList, ids_rows, hfirst]
  cases found <;> rfl

/-- The search ends with the first device that reads the node, and asks no other after it. -/
theorem Shows.run_findReader_of_reads (h : Shows t rows) {path : String}
    {before after : List Listed} {d : Listed} (hdevices : devices rows = before ++ d :: after)
    (hreads : d.Reads path.toList)
    (hbefore : ∀ e ∈ before, ¬ e.Reads path.toList) :
    (findReader path).run.run t =
      (.ok d.xid, t.calledAll (idsCall :: (before ++ [d]).map Listed.call)) := by
  have hd : d ∈ devices rows := hdevices ▸ List.mem_append_right _ List.mem_cons_self
  have hpassed : ∀ e ∈ before, e ∈ devices rows ∧ ¬ e.Reads path.toList := fun e he =>
    ⟨hdevices ▸ List.mem_append_left _ he, hbefore e he⟩
  have hlisted := h.called idsCall
  have hasked := hlisted.calledAll (before.map Listed.call)
  have hfirst : (firstReader path.toList ((devices rows).map Listed.xid)).run.run
      (t.called idsCall) =
      (.ok (some d.xid), t.calledAll (idsCall :: (before ++ [d]).map Listed.call)) := by
    rw [hdevices, List.map_append, List.map_cons, hlisted.run_firstReader_append hpassed,
      run_firstReader_cons]
    refine (if_pos ((hasked.repliesNode_iff hd).2 hreads)).trans ?_
    rw [List.map_append, ← List.cons_append, Tool.calledAll_append]
    rfl
  exact h.run_findReader hfirst

/-- The search fails where no device reads the node. -/
theorem Shows.run_findReader_of_not_reads (h : Shows t rows) {path : String}
    (hnone : ∀ d ∈ devices rows, ¬ d.Reads path.toList) :
    (findReader path).run.run t = (.error (.xinput (.noReader path)),
      t.calledAll (idsCall :: (devices rows).map Listed.call)) := by
  have hpassed := (h.called idsCall).run_firstReader_append (fun d hd => ⟨hd, hnone d hd⟩) []
  rw [List.append_nil] at hpassed
  exact h.run_findReader hpassed

/-- **The device that reads a node is found, with the state that it is in.** It is the first in the
list that can be listed and whose node is that path. The devices before it and the device itself are
asked once, in their order, and then the device once more; the devices after it are not asked. Where
no device reads the node, all of them are asked once and none is found. -/
theorem Toggle.run_ofPath_of_shows (h : Shows t rows) (path : String) :
    (∀ before d after, devices rows = before ++ d :: after → d.Reads path.toList →
      (∀ e ∈ before, ¬ e.Reads path.toList) →
      (Toggle.ofPath path).run.run t = (.ok ⟨d.xid, d.enabled⟩,
        t.calledAll (idsCall :: (before ++ [d, d]).map Listed.call))) ∧
    ((∀ d ∈ devices rows, ¬ d.Reads path.toList) →
      (Toggle.ofPath path).run.run t = (.error (.xinput (.noReader path)),
        t.calledAll (idsCall :: (devices rows).map Listed.call))) := by
  refine ⟨fun before d after hdevices hreads hbefore => ?_, fun hnone => ?_⟩
  · have hd : d ∈ devices rows := hdevices ▸ List.mem_append_right _ List.mem_cons_self
    have hfound := h.calledAll (idsCall :: (before ++ [d]).map Listed.call)
    have hcalls : idsCall :: (before ++ [d, d]).map Listed.call =
        (idsCall :: (before ++ [d]).map Listed.call) ++ [d.call] := by simp
    unfold Toggle.ofPath
    rw [run_bind_of_ok (h.run_findReader_of_reads hdevices hreads hbefore),
      hfound.run_ofXid hd hreads.1, hcalls, Tool.calledAll_append]
    rfl
  · unfold Toggle.ofPath
    rw [run_bind_of_error (h.run_findReader_of_not_reads hnone)]

instance (node : List Char) : Decidable (Quotable node) :=
  decidable_of_iff (node ≠ [] ∧ '\n' ∉ node ∧ node.head? ≠ some '"' ∧ node.getLast? ≠ some '"')
    ⟨fun ⟨hne, hline, hfirst, hlast⟩ => ⟨hne, hline, hfirst, hlast⟩,
      fun h => ⟨h.nonempty, h.oneLine, h.first, h.last⟩⟩

/-- A device whose listing has a title and no properties but the two that are looked up. -/
def Listed.plain (xid : UInt32) (enabled : Bool) (node : Option (List Char))
    (hnode : ∀ n ∈ node, Quotable n) (title : List Char) (htitle : '\n' ∉ title)
    (answers : Bool) : Listed where
  xid := xid
  enabled := enabled
  node := node
  title := some title
  properties := ⟨enabledProperty.toList, 142, flag enabled⟩ ::
    node.toList.map fun n => ⟨nodeProperty.toList, 266, quoted n⟩
  answers := answers
  onLines := by
    refine ⟨fun text htext => Option.some.inj htext ▸ htitle, List.forall_mem_cons.2 ⟨?_, ?_⟩⟩
    · have hname : '\n' ∉ enabledProperty.toList := by decide
      have hvalue : '\n' ∉ flag enabled := by cases enabled <;> decide
      exact ⟨hname, hvalue⟩
    · intro q hq
      obtain ⟨n, hn, rfl⟩ := List.mem_map.1 hq
      have hname : '\n' ∉ nodeProperty.toList := by decide
      have hvalue : '\n' ∉ quoted n := by
        simp [quoted, (hnode n (Option.mem_toList.1 hn)).oneLine]
      exact ⟨hname, hvalue⟩
  saysState := by
    have hother : ¬ enabledProperty.toList <+: Text.trimStart nodeProperty.toList := by decide
    refine ⟨[], 142, _, rfl, fun q hq => ?_⟩
    obtain ⟨n, -, rfl⟩ := List.mem_map.1 hq
    exact hother
  saysNode n hn := by
    have hother : ¬ nodeProperty.toList <+: Text.trimStart enabledProperty.toList := by decide
    obtain rfl := Option.mem_def.1 hn
    exact ⟨hnode n rfl, [_], 266, [], rfl, List.forall_mem_cons.2 ⟨hother, nofun⟩⟩
  saysNoNode hnone := by
    have hother : ¬ nodeProperty.toList <+: Text.trimStart enabledProperty.toList := by decide
    subst hnone
    exact List.forall_mem_cons.2 ⟨hother, nofun⟩

/-- Four devices share a name. One that has the node cannot be listed, one has another node, and of
the last two the first is found; the path may be written in another way. -/
theorem Toggle.run_ofPath_of_shows_same_name :
    let receiver (xid : UInt32) (enabled : Bool) (node : String)
        (hnode : Quotable node.toList) (answers : Bool) : Listed :=
      .plain xid enabled (some node.toList) (fun _ hn => Option.some.inj hn ▸ hnode)
        "USB Receiver".toList (by decide) answers
    let core := Listed.plain 2 true none nofun "Virtual core pointer".toList (by decide) true
    let silent := receiver 9 true "/dev/input/event8" (by decide) false
    let keyboard := receiver 11 true "/dev/input/event7" (by decide) true
    let pointer := receiver 12 false "/dev/input/event8" (by decide) true
    let twin := receiver 13 true "/dev/input/event8" (by decide) true
    let blank := Row.other [] nofun fun ⟨digits, hdigits, hne, _⟩ =>
      hdigits.elim (fun h => hne h.symm) nofun
    let rows := [.device core, blank, .device silent, .device keyboard, .device pointer,
      .device twin]
    let path := "/dev//input/event8"
    Shows (display rows) rows ∧ devices rows = [core, silent, keyboard] ++ pointer :: [twin] ∧
      pointer.Reads path.toList ∧ (∀ e ∈ [core, silent, keyboard], ¬ e.Reads path.toList) ∧
      (Toggle.ofPath path).run.run (display rows) = (.ok ⟨12, false⟩, (display rows).calledAll
        [["list", "--id-only"], ["list-props", "2"], ["list-props", "9"], ["list-props", "11"],
          ["list-props", "12"], ["list-props", "12"]]) := by
  intro receiver core silent keyboard pointer twin blank rows path
  have hshows : Shows (display rows) rows := shows_display (by decide)
  have hreads : pointer.Reads path.toList := ⟨rfl, _, rfl, by decide⟩
  have hpassed : ∀ e ∈ [core, silent, keyboard], ¬ e.Reads path.toList := by
    simp only [List.forall_mem_cons, List.not_mem_nil]
    refine ⟨?_, ?_, ?_, nofun⟩
    · rintro ⟨-, n, hn, -⟩
      cases hn
    · rintro ⟨hanswers, -⟩
      cases hanswers
    · rintro ⟨-, n, hn, hsame⟩
      obtain rfl := Option.some.inj hn
      revert hsame
      decide
  have hcalls : idsCall :: ([core, silent, keyboard] ++ [pointer, pointer]).map Listed.call =
      [["list", "--id-only"], ["list-props", "2"], ["list-props", "9"], ["list-props", "11"],
        ["list-props", "12"], ["list-props", "12"]] := by decide +kernel
  have hfound := (Toggle.run_ofPath_of_shows hshows path).1 [core, silent, keyboard] pointer [twin]
    rfl hreads hpassed
  rw [hcalls] at hfound
  exact ⟨hshows, rfl, hreads, hpassed, hfound⟩

/-- A property whose name is `Device Enabled` but for a blank before it is taken for the state of
its device, though that is another one. -/
theorem Toggle.ofPath_reads_indented_name :
    let other : Property := ⟨" Device Enabled".toList, 300, ['0']⟩
    let state : Property := ⟨enabledProperty.toList, 142, flag true⟩
    let node : Property := ⟨nodeProperty.toList, 266, quoted "/dev/input/event3".toList⟩
    let t := Tool.scripted
      [("list --id-only", [.ended "8\n" "" (.exited 0)]),
        ("list-props 8", [.ended (String.ofList (listing (some "Pad".toList) [other, state, node]))
          "" (.exited 0)])]
      fun _ => .ended "" "no" (.exited 1)
    ¬ enabledProperty.toList <+: other.name ∧ ¬ nodeProperty.toList <+: other.name ∧
      ((Toggle.ofPath "/dev/input/event3").run.run t).1 = .ok ⟨8, false⟩ := by
  exact ⟨by decide, by decide, by decide +kernel⟩

end KeyChord.Device
