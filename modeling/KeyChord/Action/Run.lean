import KeyChord.Action.Recipe
import KeyChord.Dispatch
import KeyChord.Machine.Basic

/-!
# Running actions

An action first fills its template; only when that succeeds does it touch the machine.
-/

namespace KeyChord.Action

/-- The arguments that run a script as a user. -/
def shellArguments (user script : String) : Arguments :=
  ["-u", user, "sh", "-c", script]

/-- How the run of a shell action ended, from what came of starting it. -/
def shellCompletion (source : String) : Reply → Completion ActionError
  | .notStarted fault => .failed (.machine fault)
  | .ended _ _ (.exited 0) => .done
  | .ended _ _ status => .failed (.failed s!"'{source}' exited with {status.message}")

/-- Runs a script as a user. -/
def runShell (user : String) (command : Template) (captures : List String) :
    Act (Completion ActionError) :=
  match command.fill captures with
  | .error e => pure (.failed (.ofTemplate e))
  | .ok script => do
    let reply ← Machine.callAs (shellArguments user script)
    pure (shellCompletion command.source reply)

/-- Writes a text to a file. -/
def runPipe (path : String) (mode : FileSystem.WriteMode) (text : Template)
    (captures : List String) : Act (Completion ActionError) :=
  match text.fill captures with
  | .error e => pure (.failed (.ofTemplate e))
  | .ok filled => do
    let m ← get
    match m.files.writeText path mode filled with
    | .error fault => pure (.failed (.machine fault))
    | .ok files =>
      set { m with files }
      pure .done

/-- Runs an action on the captures of a match. -/
def run (a : Action) (captures : List String) : Act (Completion ActionError) :=
  match a with
  | dummy => pure .done
  | shell user command => runShell user command captures
  | pipe path mode text => runPipe path mode text captures

end KeyChord.Action
