import KeyChord.Proofs.Device.Listing
import KeyChord.Proofs.Device.Toggle
import Mathlib.Logic.Function.Basic

/-!
# A display server that keeps its devices' states

The display server holds a flag for each device, which says whether it is enabled. A call that lists
the properties of a device shows its flag, a call that switches a device sets it, and any call may
fail, without effect then. The flags are a matter of the calls that were made, so such a server is a
tool like any other (`Serves`).

* `Request`: what the server reads off the arguments of a call.
* `Flags.after`, `Flags.afterAll`: the flags after calls.
* `ShowsFlag`: a listing with the line that says whether its device is enabled.
* `Serves`: a program that shows and sets flags.
* `server`, `serves_server`: there is such a program for all flags, whatever it fails at.
* `Serves.eq_of_repliesEnabled`: **what is read of a device is its flag.**
-/

namespace KeyChord.Device

open Text

/-! ## Requests -/

/-- What a call asks of the display server. -/
inductive Request where
  /-- List the properties of a device. -/
  | list (xid : UInt32)
  /-- Enable or disable a device. -/
  | set (xid : UInt32) (enabled : Bool)
  deriving DecidableEq, Repr

/-- The device that an argument names by its number. -/
def deviceNamed? (argument : String) : Option UInt32 :=
  (unsigned? UInt32.size argument.toList).map Nat.toUInt32

/-- What the arguments of a call ask for, if they are of one of the two forms. -/
def Request.ofArguments? : Arguments → Option Request
  | ["list-props", device] => (deviceNamed? device).map .list
  | ["set-prop", device, "Device Enabled", "0"] => (deviceNamed? device).map (.set · false)
  | ["set-prop", device, "Device Enabled", "1"] => (deviceNamed? device).map (.set · true)
  | _ => none

theorem deviceNamed?_toString (xid : UInt32) : deviceNamed? (toString xid) = some xid := by
  have hshown : (toString xid).toList = Nat.toDigits 10 xid.toNat := String.toList_ofList
  unfold deviceNamed?
  rw [hshown, unsigned?_toDigits xid.toNat_lt, Option.map_some]
  exact congrArg some UInt32.ofNat_toNat

theorem ofArguments?_propertiesCall (xid : UInt32) :
    Request.ofArguments? (propertiesCall xid) = some (.list xid) := by
  show (deviceNamed? (toString xid)).map Request.list = _
  rw [deviceNamed?_toString, Option.map_some]

theorem ofArguments?_switchArguments (xid : UInt32) (enabled : Bool) :
    Request.ofArguments? (Toggle.switchArguments xid enabled) = some (.set xid enabled) := by
  cases enabled with
  | false =>
      show (deviceNamed? (toString xid)).map (Request.set · false) = _
      rw [deviceNamed?_toString, Option.map_some]
  | true =>
      show (deviceNamed? (toString xid)).map (Request.set · true) = _
      rw [deviceNamed?_toString, Option.map_some]

/-! ## Flags -/

/-- For each device, whether it is enabled. -/
abbrev Flags := UInt32 → Bool

/-- The flags after an exchange. Only a call that asks to set a flag and does not fail changes
one. -/
def Flags.after (flags : Flags) (exchange : Arguments × Reply) : Flags :=
  match Request.ofArguments? exchange.1, exchange.2 with
  | some (.set xid enabled), .ended _ _ (.exited 0) => Function.update flags xid enabled
  | _, _ => flags

/-- The flags after some exchanges, oldest first. -/
def Flags.afterAll (flags : Flags) (past : List (Arguments × Reply)) : Flags :=
  past.foldl Flags.after flags

variable {flags : Flags} {t : Tool} {xid : UInt32}

theorem Flags.afterAll_called (args : Arguments) :
    flags.afterAll (t.called args).past = (flags.afterAll t.past).after (args, t.replyTo args) :=
  List.foldl_append

theorem Flags.after_of_list {args : Arguments} (h : Request.ofArguments? args = some (.list xid))
    (reply : Reply) : flags.after (args, reply) = flags := by
  unfold Flags.after
  dsimp only
  rw [h]

theorem Flags.after_of_set {args : Arguments} {enabled : Bool}
    (h : Request.ofArguments? args = some (.set xid enabled)) (output complaint : String) :
    flags.after (args, .ended output complaint (.exited 0)) =
      Function.update flags xid enabled := by
  unfold Flags.after
  rw [h]
  rfl

/-- A call that fails has no effect. -/
theorem Flags.after_of_failed {args : Arguments} {reply : Reply}
    (h : ∀ output complaint, reply ≠ .ended output complaint (.exited 0)) :
    flags.after (args, reply) = flags := by
  unfold Flags.after
  split
  · next _ _ _ output complaint _ hreply => exact absurd hreply (h output complaint)
  · rfl

/-! ## The server -/

/-- A listing has the line that says whether its device is enabled, and no other line starts with
the name of that property, blanks at its front aside. -/
def ShowsFlag (printed : List Char) (enabled : Bool) : Prop :=
  ∃ before id after, printed =
      unlines (before ++ Property.line ⟨enabledProperty.toList, id, flag enabled⟩ :: after) ∧
    ∀ l ∈ before ++ after, '\n' ∉ l ∧ ¬ enabledProperty.toList <+: trimStart l

/-- A program that, having set flags as it was asked to, shows the flag of a device in the device's
listing, unless it fails. -/
def Serves (t : Tool) (flags : Flags) : Prop :=
  ∀ past args xid output complaint, Request.ofArguments? args = some (.list xid) →
    t.answer past args = .ended output complaint (.exited 0) →
    ShowsFlag output.toList (flags.afterAll past xid)

theorem enabled?_of_showsFlag {printed : List Char} {enabled : Bool}
    (h : ShowsFlag printed enabled) : enabled? printed = some enabled := by
  obtain ⟨before, id, after, rfl, hothers⟩ := h
  have hname : '\n' ∉ enabledProperty.toList := by decide
  have hvalue : '\n' ∉ flag enabled := by cases enabled <;> decide
  have honeLine : ∀ l ∈ before ++ Property.line ⟨enabledProperty.toList, id, flag enabled⟩ :: after,
      '\n' ∉ l := by
    intro l hl
    rcases List.mem_append.1 hl with hl | hl
    · exact (hothers l (List.mem_append_left _ hl)).1
    rcases List.mem_cons.1 hl with rfl | hl
    · exact not_mem_line hname hvalue
    · exact (hothers l (List.mem_append_right _ hl)).1
  have hbefore : before.findSome? (valueOnLine? enabledProperty.toList) = none :=
    List.findSome?_eq_none_iff.2 fun l hl =>
      valueOnLine?_eq_none (hothers l (List.mem_append_left _ hl)).2
  unfold enabled?
  rw [property?_unlines honeLine, List.findSome?_append, hbefore, Option.none_or,
    List.findSome?_cons, valueOnLine?_line sought_enabledProperty]
  cases enabled <;> rfl

theorem Serves.called (h : Serves t flags) (args : Arguments) : Serves (t.called args) flags :=
  h

/-- **What is read of a device is its flag.** -/
theorem Serves.eq_of_repliesEnabled (h : Serves t flags) {state : Bool}
    (hread : repliesEnabled xid (t.replyTo (propertiesCall xid)) = .ok state) :
    state = flags.afterAll t.past xid := by
  obtain ⟨output, complaint, hreply, hstate⟩ := repliesEnabled_eq_ok_iff.1 hread
  have hshows := h t.past (propertiesCall xid) xid output complaint
    (ofArguments?_propertiesCall xid) (Tool.answer_of_replyTo_eq_ended hreply)
  rw [enabled?_of_showsFlag hshows] at hstate
  exact (Option.some.inj hstate).symm

/-- The display server with these flags, which fails whenever it is told to. -/
def server (flags : Flags) (fails : List (Arguments × Reply) → Arguments → Bool) : Tool where
  answer past args :=
    if fails past args then .ended "" "" (.exited 1)
    else
      match Request.ofArguments? args with
      | some (.list xid) =>
        .ended (String.ofList (listing none
          [⟨enabledProperty.toList, 142, flag (flags.afterAll past xid)⟩])) "" (.exited 0)
      | some (.set _ _) => .ended "" "" (.exited 0)
      | none => .ended "" "" (.exited 1)

/-- **There is a display server for all flags, whatever it fails at.** -/
theorem serves_server (flags : Flags) (fails : List (Arguments × Reply) → Arguments → Bool) :
    Serves (server flags fails) flags := by
  intro past args xid output complaint hlist hanswer
  dsimp only [server] at hanswer
  split at hanswer
  · cases hanswer
  · rw [hlist] at hanswer
    cases hanswer
    rw [String.toList_ofList]
    exact ⟨[], 142, [], rfl, nofun⟩

end KeyChord.Device
