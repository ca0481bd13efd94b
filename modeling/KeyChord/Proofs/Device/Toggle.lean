import KeyChord.Device.Toggle
import KeyChord.Proofs.Machine.Tool

/-!
# What is asked of the display server

Everything that is done with the display server's program is a row of calls, each appended to the
program's past together with what came of it. Here each step is told by its calls and by what it
reads off the replies. Most steps only ask; one switches a device.

* `printed`: what is read off a reply; `run_runXInput` and the lemmas after it tell the steps.
* `isSwitch`: the calls that switch a device; `Asked` and `Asks` say that there are none.
* `Toggle.ReadFrom`: the exchange that a toggle has its state from.
* `asks_ofXid`, `asks_ofPath`: a toggle is made without switching anything.
* `readFrom_of_ofXid`, `readFrom_of_ofPath`: **a toggle has its state from the last exchange before
  it.**
-/

namespace KeyChord.Device

variable {α β : Type} {t t' : Tool} {xid : UInt32}

/-! ## The steps -/

/-- What is read off the reply to a call: what was printed, if the program ended well. -/
def printed (args : Arguments) : Reply → Except DeviceError String
  | .notStarted fault => .error (.xinputNotStarted fault)
  | .ended output _ (.exited 0) => .ok output
  | .ended _ complaint _ =>
    .error (.xinput (.failed (" ".intercalate args)
      (String.ofList (Text.trim complaint.toList))))

theorem printed_eq_ok_iff {args : Arguments} {reply : Reply} {output : String} :
    printed args reply = .ok output ↔ ∃ complaint, reply = .ended output complaint (.exited 0) := by
  constructor
  · intro h
    unfold printed at h
    split at h
    · cases h
    · next complaint =>
        cases h
        exact ⟨complaint, rfl⟩
    · cases h
  · rintro ⟨complaint, rfl⟩
    rfl

theorem run_runXInput (args : Arguments) (t : Tool) :
    (runXInput args).run.run t = (printed args (t.replyTo args), t.called args) := by
  have hcall : (liftM (Tool.call args) : XInput Reply).run.run t =
      (.ok (t.replyTo args), t.called args) := rfl
  unfold runXInput
  rw [run_bind_of_ok hcall]
  cases t.replyTo args with
  | notStarted fault => rfl
  | ended output complaint status =>
      cases status with
      | killed s => rfl
      | exited code =>
          cases code with
          | zero => rfl
          | succ code => rfl

/-- The call that lists the properties of a device. -/
def propertiesCall (xid : UInt32) : Arguments :=
  ["list-props", toString xid]

/-- The call that lists the numbers of all devices. -/
def idsCall : Arguments :=
  ["list", "--id-only"]

theorem run_listProperties (xid : UInt32) (t : Tool) :
    (listProperties xid).run.run t =
      ((printed (propertiesCall xid) (t.replyTo (propertiesCall xid))).map String.toList,
        t.called (propertiesCall xid)) := by
  have hrun := run_runXInput (propertiesCall xid) t
  show (runXInput (propertiesCall xid) >>= fun output => pure output.toList).run.run t = _
  rw [run_bind, hrun]
  cases printed (propertiesCall xid) (t.replyTo (propertiesCall xid)) <;> rfl

theorem run_setState (toggle : Toggle) (state : Bool) (t : Tool) :
    (toggle.setState state).run.run t =
      ((printed (Toggle.switchArguments toggle.xid state)
        (t.replyTo (Toggle.switchArguments toggle.xid state))).map fun _ => (),
        t.called (Toggle.switchArguments toggle.xid state)) := by
  unfold Toggle.setState
  rw [run_bind, run_runXInput]
  cases printed (Toggle.switchArguments toggle.xid state)
    (t.replyTo (Toggle.switchArguments toggle.xid state)) <;> rfl

/-- Whether a device is enabled, read off the reply to the call that lists its properties. -/
def repliesEnabled (xid : UInt32) (reply : Reply) : Except DeviceError Bool :=
  match printed (propertiesCall xid) reply with
  | .error e => .error e
  | .ok output =>
    match enabled? output.toList with
    | some state => .ok state
    | none => .error (.xinput (.noState xid))

theorem repliesEnabled_eq_ok_iff {reply : Reply} {state : Bool} :
    repliesEnabled xid reply = .ok state ↔ ∃ output complaint,
      reply = .ended output complaint (.exited 0) ∧ enabled? output.toList = some state := by
  unfold repliesEnabled
  constructor
  · intro h
    split at h
    · cases h
    · next output hprinted =>
        obtain ⟨complaint, hreply⟩ := printed_eq_ok_iff.1 hprinted
        cases hstate : enabled? output.toList with
        | none =>
            rw [hstate] at h
            cases h
        | some found =>
            rw [hstate] at h
            cases h
            exact ⟨output, complaint, hreply, hstate⟩
  · rintro ⟨output, complaint, hreply, hstate⟩
    have hprinted : printed (propertiesCall xid) reply = .ok output :=
      printed_eq_ok_iff.2 ⟨complaint, hreply⟩
    rw [hprinted]
    dsimp only
    rw [hstate]

theorem run_readEnabled (xid : UInt32) (t : Tool) :
    (readEnabled xid).run.run t =
      (repliesEnabled xid (t.replyTo (propertiesCall xid)), t.called (propertiesCall xid)) := by
  unfold readEnabled repliesEnabled
  rw [run_bind, run_listProperties]
  cases printed (propertiesCall xid) (t.replyTo (propertiesCall xid)) with
  | error e => rfl
  | ok output =>
      simp only [Except.map]
      cases enabled? output.toList <;> rfl

theorem run_ofXid (xid : UInt32) (t : Tool) :
    (Toggle.ofXid xid).run.run t =
      ((repliesEnabled xid (t.replyTo (propertiesCall xid))).map (Toggle.mk xid),
        t.called (propertiesCall xid)) := by
  unfold Toggle.ofXid
  rw [run_bind, run_readEnabled]
  cases repliesEnabled xid (t.replyTo (propertiesCall xid)) <;> rfl

/-- Whether a device reads a node, by the reply to the call that lists its properties. -/
def repliesNode (path : List Char) (xid : UInt32) (reply : Reply) : Bool :=
  match printed (propertiesCall xid) reply with
  | .ok output => readsNode path output.toList
  | .error _ => false

/-- Devices are asked one by one, up to the first that reads the node. -/
theorem run_firstReader_cons (path : List Char) (xid : UInt32) (xids : List UInt32) (t : Tool) :
    (firstReader path (xid :: xids)).run.run t =
      if repliesNode path xid (t.replyTo (propertiesCall xid)) then
        (.ok (some xid), t.called (propertiesCall xid))
      else (firstReader path xids).run.run (t.called (propertiesCall xid)) := by
  have hask : (tryCatch (do pure (readsNode path (← listProperties xid))) fun _ => pure false :
      XInput Bool).run.run t =
      (.ok (repliesNode path xid (t.replyTo (propertiesCall xid))),
        t.called (propertiesCall xid)) := by
    rw [run_tryCatch, run_bind, run_listProperties]
    unfold repliesNode
    cases printed (propertiesCall xid) (t.replyTo (propertiesCall xid)) <;> rfl
  rw [firstReader, run_bind_of_ok hask]
  split <;> rfl

theorem run_findReader (path : String) (t : Tool) :
    (findReader path).run.run t =
      match printed idsCall (t.replyTo idsCall) with
      | .error e => (.error e, t.called idsCall)
      | .ok output =>
        match (firstReader path.toList (ids output.toList)).run.run (t.called idsCall) with
        | (.error e, t') => (.error e, t')
        | (.ok (some xid), t') => (.ok xid, t')
        | (.ok none, t') => (.error (.xinput (.noReader path)), t') := by
  have hrun := run_runXInput idsCall t
  show (runXInput idsCall >>= _).run.run t = _
  rw [run_bind, hrun]
  cases printed idsCall (t.replyTo idsCall) with
  | error e => rfl
  | ok output =>
      dsimp only
      rw [run_bind]
      rcases (firstReader path.toList (ids output.toList)).run.run (t.called idsCall) with
        ⟨_ | _ | xid, t'⟩ <;> rfl

/-! ## Asking -/

/-- Whether a call switches a device. -/
def isSwitch (args : Arguments) : Bool :=
  args.head? = some "set-prop"

/-- One state of the program is reached from another by calls that switch no device. -/
def Asked (t t' : Tool) : Prop :=
  ∃ queries, t' = { t with past := t.past ++ queries } ∧ ∀ q ∈ queries, isSwitch q.1 = false

theorem Asked.refl (t : Tool) : Asked t t :=
  ⟨[], by rw [List.append_nil], nofun⟩

theorem Asked.trans {t t' t'' : Tool} (h : Asked t t') (h' : Asked t' t'') : Asked t t'' := by
  obtain ⟨queries, rfl, hqueries⟩ := h
  obtain ⟨queries', rfl, hqueries'⟩ := h'
  refine ⟨queries ++ queries', by rw [← List.append_assoc], fun q hq => ?_⟩
  rcases List.mem_append.1 hq with hq | hq
  · exact hqueries q hq
  · exact hqueries' q hq

theorem Asked.called (t : Tool) {args : Arguments} (h : isSwitch args = false) :
    Asked t (t.called args) := by
  refine ⟨[(args, t.replyTo args)], rfl, fun q hq => ?_⟩
  rw [List.mem_singleton.1 hq]
  exact h

/-- A step that switches no device. -/
def Asks (x : XInput α) : Prop :=
  ∀ t, Asked t (x.run.run t).2

theorem Asks.bind {x : XInput α} {f : α → XInput β} (hx : Asks x) (hf : ∀ a, Asks (f a)) :
    Asks (x >>= f) := by
  intro t
  have hfirst := hx t
  rcases hrun : x.run.run t with ⟨e | a, t'⟩
  · rw [run_bind_of_error hrun]
    rw [hrun] at hfirst
    exact hfirst
  · rw [run_bind_of_ok hrun]
    rw [hrun] at hfirst
    exact hfirst.trans (hf a t')

theorem asks_readNode (xid : UInt32) : Asks (readNode xid) := by
  refine Asks.bind (fun t => ?_) fun listing t => ?_
  · rw [run_listProperties]
    exact .called t rfl
  · cases node? listing <;> exact .refl t

theorem asks_firstReader (path : List Char) (xids : List UInt32) :
    Asks (firstReader path xids) := by
  induction xids with
  | nil => exact Asked.refl
  | cons xid xids ih =>
      intro t
      have hcalled : Asked t (t.called (propertiesCall xid)) := .called t rfl
      rw [run_firstReader_cons]
      split
      · exact hcalled
      · exact hcalled.trans (ih (t.called (propertiesCall xid)))

theorem asks_findReader (path : String) : Asks (findReader path) := by
  refine Asks.bind (fun t => ?_) fun output => Asks.bind (asks_firstReader _ _) fun found t => ?_
  · rw [run_runXInput]
    exact .called t rfl
  · cases found <;> exact .refl t

/-! ## Making a toggle -/

/-- A toggle has its state from an exchange with the program: the properties of its device were
listed, and the listing says so. -/
def Toggle.ReadFrom (toggle : Toggle) (exchange : Arguments × Reply) : Prop :=
  ∃ output complaint,
    exchange = (propertiesCall toggle.xid, .ended output complaint (.exited 0)) ∧
      enabled? output.toList = some toggle.initial

theorem asks_ofXid (xid : UInt32) : Asks (Toggle.ofXid xid) := by
  intro t
  rw [run_ofXid]
  exact .called t rfl

theorem asks_ofPath (path : String) : Asks (Toggle.ofPath path) :=
  Asks.bind (asks_findReader path) asks_ofXid

/-- A toggle has its state from the last exchange before it. -/
theorem readFrom_of_ofXid {toggle : Toggle} (h : (Toggle.ofXid xid).run.run t = (.ok toggle, t')) :
    toggle.xid = xid ∧ ∃ exchange, toggle.ReadFrom exchange ∧ t'.past = t.past ++ [exchange] := by
  rw [run_ofXid] at h
  obtain ⟨hresult, rfl⟩ := Prod.mk.inj h
  cases hstate : repliesEnabled xid (t.replyTo (propertiesCall xid)) with
  | error e =>
      rw [hstate] at hresult
      cases hresult
  | ok state =>
      rw [hstate] at hresult
      cases hresult
      obtain ⟨output, complaint, hreply, henabled⟩ := repliesEnabled_eq_ok_iff.1 hstate
      refine ⟨rfl, _, ⟨output, complaint, rfl, henabled⟩, ?_⟩
      rw [← hreply]
      rfl

theorem readFrom_of_ofPath {path : String} {toggle : Toggle}
    (h : (Toggle.ofPath path).run.run t = (.ok toggle, t')) :
    ∃ queries exchange, toggle.ReadFrom exchange ∧ t'.past = t.past ++ queries ++ [exchange] := by
  have hasked := asks_findReader path t
  rcases hfind : (findReader path).run.run t with ⟨e | xid, found⟩
  · unfold Toggle.ofPath at h
    rw [run_bind_of_error hfind] at h
    cases h
  · unfold Toggle.ofPath at h
    rw [run_bind_of_ok hfind] at h
    rw [hfind] at hasked
    obtain ⟨queries, hfound, -⟩ := hasked
    obtain ⟨-, exchange, hread, hpast⟩ := readFrom_of_ofXid h
    have hqueries : found.past = t.past ++ queries := congrArg Tool.past hfound
    refine ⟨queries, exchange, hread, ?_⟩
    rw [hpast, hqueries]

end KeyChord.Device
