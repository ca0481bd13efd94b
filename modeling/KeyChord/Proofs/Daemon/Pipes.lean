import KeyChord.Daemon.Load
import KeyChord.Proofs.Dispatch.Decision
import KeyChord.Proofs.Dispatch.Run
import KeyChord.Proofs.Machine.Files

/-!
# What pipes write

The one thing that a run over events does to the files is what the pipes among its bindings write:
each time one of them fires, its text filled with the captures of the match. So the content of a
file afterwards can be computed from the decisions of the run, which are made without looking at
any file.

* `Action.write?`: the write that an action comes to on the captures of a match.
* `Dispatcher.writes`: the writes of a run, in order.
* `Dispatcher.filesAfter_eq`: the files after a run are those before it after these writes.
* `Dispatcher.run_writes_fold`: the content of each file is the fold of the writes to it.

A command that a shell runs may write files too. The machine does not follow what it does there, so
all of this is about a machine on which nothing else writes to these files.
-/

namespace KeyChord

open Key Pattern FileSystem

/-! ## One call -/

/-- The write that an action comes to on the captures of a match: that of a pipe whose text can be
filled. -/
def Action.write? (captures : List String) : Action → Option Write
  | .pipe path mode text => (text.fill captures).toOption.map fun filled => ⟨path, mode, filled⟩
  | _ => none

theorem Action.write?_pipe (path : String) (mode : WriteMode) (text : Template)
    (captures : List String) : (Action.pipe path mode text).write? captures =
      (text.fill captures).toOption.map fun filled => ⟨path, mode, filled⟩ := rfl

/-- A shell does not touch the files. -/
theorem Action.files_runShell (user : String) (command : Template) (captures : List String)
    (m : Machine) : ((Action.runShell user command captures).run m).2.files = m.files := by
  unfold Action.runShell
  cases command.fill captures with
  | error e => rfl
  | ok script => rfl

/-- A pipe makes its write if its text can be filled, and does nothing else to the files. -/
theorem Action.files_runPipe (path : String) (mode : WriteMode) (text : Template)
    (captures : List String) (m : Machine) :
    ((Action.runPipe path mode text captures).run m).2.files =
      ((Action.pipe path mode text).write? captures).toList.foldl Write.on m.files := by
  rw [Action.write?_pipe]
  unfold Action.runPipe
  cases text.fill captures with
  | error e => rfl
  | ok filled =>
      change _ = Write.on m.files ⟨path, mode, filled⟩
      unfold Write.on
      simp only [StateT.run_bind, StateT.run_get, pure_bind]
      cases m.files.writeText path mode filled with
      | error fault => rfl
      | ok files => rfl

/-- The files after the run of an action are those before it after its write, if it comes to one. -/
theorem Action.files_run (a : Action) (captures : List String) (m : Machine) :
    ((a.run captures).run m).2.files = (a.write? captures).toList.foldl Write.on m.files := by
  cases a with
  | dummy => rfl
  | shell user command => exact Action.files_runShell user command captures m
  | pipe path mode text => exact Action.files_runPipe path mode text captures m

/-! ## A run -/

/-- The write that a decision comes to: that of the action of the binding that fires. -/
def Decision.write? (bindings : List (Binding Action)) (v : Decision) : Option Write :=
  (v.call? bindings).bind fun call => call.1.write? call.2

/-- A decision comes to a write exactly if it fires a pipe whose text can be filled. -/
theorem Decision.write?_eq_some_iff {bindings : List (Binding Action)} {v : Decision} {w : Write} :
    v.write? bindings = some w ↔ ∃ i captures b text, v = .fire i captures ∧
      bindings[i]? = some b ∧ b.action = .pipe w.path w.mode text ∧
      text.fill captures = .ok w.text := by
  constructor
  · intro h
    obtain ⟨⟨a, captures⟩, hcall, hwrite⟩ := Option.bind_eq_some_iff.1 h
    cases v with
    | fire i captures' =>
        obtain ⟨b, hb, hpair⟩ := Option.map_eq_some_iff.1 hcall
        obtain ⟨rfl, rfl⟩ := Prod.mk.inj hpair
        cases haction : b.action with
        | dummy =>
            rw [haction] at hwrite
            cases hwrite
        | shell user command =>
            rw [haction] at hwrite
            cases hwrite
        | pipe path mode text =>
            rw [haction, Action.write?_pipe] at hwrite
            obtain ⟨filled, hfill, rfl⟩ := Option.map_eq_some_iff.1 hwrite
            exact ⟨i, captures', b, text, rfl, hb, haction,
              Fallible.toOption_eq_some_iff.1 hfill⟩
    | ignore => cases hcall
    | reset => cases hcall
    | retain => cases hcall
    | flush => cases hcall
  · rintro ⟨i, captures, b, text, rfl, hb, haction, hfill⟩
    rw [Decision.write?, Decision.call?, hb, Option.map_some, Option.bind_some, haction,
      Action.write?_pipe, hfill]
    rfl

/-- Calls of actions change the files by their writes, one after another. -/
theorem files_invokeAll (calls : List (Action × List String)) (m : Machine) :
    (invokeAll Action.run calls m).files =
      (calls.filterMap fun call => call.1.write? call.2).foldl Write.on m.files := by
  induction calls generalizing m with
  | nil => rfl
  | cons call calls ih =>
      have hfirst := Action.files_run call.1 call.2 m
      have hrest := ih ((call.1.run call.2).run m).2
      rw [hfirst] at hrest
      rw [List.filterMap_cons]
      refine hrest.trans ?_
      cases call.1.write? call.2 with
      | none => rfl
      | some w => rfl

namespace Dispatcher

variable (d : Dispatcher Action) (m : Machine)

/-- The writes of a run over events, in order. -/
def writes (events : List Event) : List Write :=
  (d.decisions (events.map .event)).filterMap (Decision.write? d.bindings)

/-- The files after a run over events. -/
def filesAfter (events : List Event) : FileSystem :=
  ((d.run Action.run Action.ActionError.message (events.map .event)).run m).2.files

/-- **The files after a run are those before it after its writes.** -/
theorem filesAfter_eq (events : List Event) :
    d.filesAfter m events = (d.writes events).foldl Write.on m.files := by
  obtain ⟨-, -, hmachine⟩ :=
    d.run_spec Action.run Action.ActionError.message (events.map .event) m
  rw [filesAfter, hmachine, files_invokeAll, calls_events, List.filterMap_filterMap]
  rfl

/-- One more event changes the files by the write that its decision comes to. -/
theorem filesAfter_concat (front : List Event) (e : Event) :
    d.filesAfter m (front ++ [e]) =
      (((d.afterAll (front.map .event)).decision e).write? d.bindings).toList.foldl Write.on
        (d.filesAfter m front) := by
  rw [filesAfter_eq, filesAfter_eq, writes, writes, decisions_concat_event,
    List.filterMap_append, List.foldl_append]
  cases hwrite : ((d.afterAll (front.map .event)).decision e).write? d.bindings with
  | none => rw [List.filterMap_cons_none hwrite]; rfl
  | some w => rw [List.filterMap_cons_some hwrite]; rfl

variable {d m} in
/-- A decision that comes to no write changes no file. -/
theorem filesAfter_concat_of_none {front : List Event} {e : Event}
    (h : ((d.afterAll (front.map .event)).decision e).write? d.bindings = none) :
    d.filesAfter m (front ++ [e]) = d.filesAfter m front := by
  rw [filesAfter_concat, h]
  rfl

/-- **What a file holds after a run is the fold of the matches.** From what it held before, each
pipe that fired and whose text could be filled put its text in the place of it or after it, in the
order of the events; it does not matter how its path is spelt, as long as it leads to this file. The
outcomes of the run are those of its decisions, and a binding fires with the captures of its own
match. An event that fires no binding changes no file, and nor does one that fires a pipe whose text
cannot be filled: none is made, and none is emptied. -/
theorem run_writes_fold (hrooted : m.files.Rooted) (events : List Event) :
    ((d.run Action.run Action.ActionError.message (events.map .event)).run m).1.1.map Prod.fst =
      (d.decisions (events.map .event)).map Decision.outcome ∧
    (∀ path place, m.files.placeOf? path = some place →
      ((d.filesAfter m events).readBytes path).toOption =
        ((d.writes events).filter fun w => m.files.placeOf? w.path = some place).foldl
          Write.after (m.files.readBytes path).toOption) ∧
    ∀ front e later, events = front ++ e :: later →
      let before := d.afterAll (front.map .event)
      (d.decisions (events.map .event))[front.length]? = some (before.decision e) ∧
      (∀ i captures, before.decision e = .fire i captures →
        ∃ b, d.bindings[i]? = some b ∧
          b.expression.process (before.buffer ++ [e]) = ⟨.accept, captures⟩) ∧
      ((∀ i, (before.decision e).outcome ≠ .fired i) →
        d.filesAfter m (front ++ [e]) = d.filesAfter m front) ∧
      ∀ i captures b path mode text fault, before.decision e = .fire i captures →
        d.bindings[i]? = some b → b.action = .pipe path mode text →
          text.fill captures = .error fault →
            d.filesAfter m (front ++ [e]) = d.filesAfter m front := by
  refine ⟨(d.run_spec Action.run Action.ActionError.message (events.map .event) m).2.1, ?_, ?_⟩
  · intro path place hplace
    obtain ⟨hrooted', hshape, hcontent⟩ := Write.content?_foldl_on hrooted (d.writes events)
    have hplace' : ((d.writes events).foldl Write.on m.files).placeOf? path = some place := by
      rw [hshape.placeOf?_eq hrooted hrooted', hplace]
    rw [filesAfter_eq, readBytes_of_placeOf? hrooted' hplace', hcontent place,
      readBytes_of_placeOf? hrooted hplace]
  · intro front e later hevents before
    have hbindings : before.bindings = d.bindings := d.bindings_afterAll_events front
    refine ⟨?_, fun i captures hfire => ?_, fun hnot => ?_, ?_⟩
    · rw [hevents]
      exact d.getElem?_decisions_event front e later
    · have he : e.transition ≠ .repeated := by
        intro hrepeated
        rw [(before.decision_eq_ignore_iff e).2 hrepeated] at hfire
        cases hfire
      have hjudged := judged_decision (d := before) he
      rw [hfire] at hjudged
      cases hjudged with
      | @fire _ b _ hb haccept _ =>
          rw [hbindings] at hb
          exact ⟨b, hb, by rw [← haccept]⟩
    · refine filesAfter_concat_of_none (Option.eq_none_iff_forall_ne_some.2 fun w hw => ?_)
      obtain ⟨i, captures, -, -, hfire, -⟩ := Decision.write?_eq_some_iff.1 hw
      exact hnot i (by rw [hfire]; rfl)
    · intro i captures b path mode text fault hfire hb haction hfill
      refine filesAfter_concat_of_none (Option.eq_none_iff_forall_ne_some.2 fun w hw => ?_)
      obtain ⟨i', captures', b', text', hfire', hb', haction', hfill'⟩ :=
        Decision.write?_eq_some_iff.1 hw
      -- the decision has one index and one list of captures, so this is the pipe that cannot fill
      cases hfire.symm.trans hfire'
      cases hb.symm.trans hb'
      cases haction.symm.trans haction'
      cases hfill.symm.trans hfill'

/-- The first match takes the place of what the file held, the second is put after it, and the third
cannot fill its text, which asks for a second capture. -/
theorem run_writes_fold_two_modes :
    let text := "\x7b\"expressions\": \x7b\"default\": \x7b" ++
      "\"pipe path=log mode=w\": \x7b\"a*\": \"\x7b0\x7d\", \"b*\": \"\x7b1\x7d\"\x7d, " ++
      "\"pipe path=/tmp/./log mode=a\": \x7b\"x\": \"!\"\x7d\x7d\x7d\x7d"
    let files : FileSystem :=
      ⟨[(["tmp"], .directory), (["log", "tmp"], .regular "old".toUTF8)], ["tmp"]⟩
    let m : Machine := ⟨files, .missing, .missing, [], "", "", []⟩
    let events : List Event := [30, 35, 28, 45, 48, 28].map .press
    ∃ s d, Config.Settings.ofText text = .ok s ∧ Daemon.buildDispatcher s "default" = .ok d ∧
      files.Rooted ∧
      d.decisions (events.map .event) =
        [.retain, .retain, .fire 0 ["h"], .fire 2 [], .retain, .fire 1 [""]] ∧
      ((d.filesAfter m events).readBytes "log").toOption = some "h!".toUTF8 := by
  intro text files m events
  have hrun : ((Config.Settings.ofText text).toOption.bind fun s =>
      (Daemon.buildDispatcher s "default").toOption.map fun d =>
        (d.decisions (events.map .event), d.writes events)) =
      some ([.retain, .retain, .fire 0 ["h"], .fire 2 [], .retain, .fire 1 [""]],
        [⟨"log", .truncate, "h"⟩, ⟨"/tmp/./log", .append, "!"⟩]) := by
    decide +kernel
  obtain ⟨s, hs, hrun⟩ := Option.bind_eq_some_iff.1 hrun
  obtain ⟨d, hd, hrun⟩ := Option.map_eq_some_iff.1 hrun
  obtain ⟨hdecisions, hwrites⟩ := Prod.mk.inj hrun
  have hrooted : files.Rooted := by
    refine rooted_of_forall_mem fun entry hentry => ?_
    rcases List.mem_pair.1 hentry with rfl | rfl
    · rfl
    · rfl
  have hplace : files.placeOf? "log" = some ["log", "tmp"] := by decide +kernel
  obtain ⟨-, hfold, -⟩ := d.run_writes_fold m hrooted events
  have hlog := hfold "log" ["log", "tmp"] hplace
  rw [hwrites] at hlog
  refine ⟨s, d, Fallible.toOption_eq_some_iff.1 hs, Fallible.toOption_eq_some_iff.1 hd, hrooted,
    hdecisions, hlog.trans ?_⟩
  decide +kernel

end Dispatcher

end KeyChord
