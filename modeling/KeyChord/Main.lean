import KeyChord.Daemon.Program

/-!
# The command line

The program is a function of the machine, so the command line takes a picture of the machine first:
the variables that the program asks for and the files that it may read. The picture has no input
device and no other program in it. Then the program is run, and what it has printed is printed.
-/

namespace KeyChord.Picture

open CommandLine

/-- The variables that the program asks for. -/
def variableNames : List String :=
  ["MACROD_DEBUG", "MACROD_CONFIG", "MACROD_DEFAULTS", "MACROD_SCHEME", logVariable,
   generalLogVariable]

/-- The place that a path leads to, as far as the path itself tells. -/
def placeOf (home : Place) (path : String) : Place :=
  let start := if path.toList.head? = some '/' then [] else home
  (FileSystem.pathNames path).foldl
    (fun place name =>
      if name = "." then place else if name = ".." then place.tail else name :: place)
    start

/-- The absolute path of a place. -/
def pathOf (place : Place) : String :=
  "/" ++ "/".intercalate place.reverse

/-- What stands at a path. What is there and cannot be read as a file is taken for a directory. -/
def readEntry (path : String) : IO (Option Entry) := do
  match ← (IO.FS.readBinFile path).toBaseIO with
  | .ok content => pure (some (.regular content))
  | .error (.noFileOrDirectory ..) => pure none
  | .error _ => pure (some .directory)

/-- Takes a place and the directories above it into the picture. -/
def addPlace (fs : FileSystem) : Place → IO FileSystem
  | [] => pure fs
  | name :: parent => do
    let fs ← addPlace fs parent
    match ← readEntry (pathOf (name :: parent)) with
    | some e => pure (fs.set (name :: parent) e)
    | none => pure fs

/-- A file of variables in each directory from `home` upwards. -/
def envPlaces (name : String) : Place → List Place
  | [] => [[name]]
  | child :: parent => (name :: child :: parent) :: envPlaces name parent

/-- The files that the options name, once the files of variables are in force. -/
def optionPlaces (m : Machine) (args : List String) : List Place :=
  let (_, m) := loadEnvFiles.run.run m
  match Options.ofArguments m.environment args with
  | .ok o => (o.defaults :: o.config.toList).map (placeOf m.files.home)
  | .error _ => []

/-- Takes the picture for a run with the given arguments. -/
def take (args : List String) : IO Machine := do
  let home := placeOf [] (← IO.currentDir).toString
  let environment ← variableNames.filterMapM fun name => do
    pure ((← IO.getEnv name).map fun value => (name, value))
  let files ← (envFileNames.flatMap fun name => envPlaces name home).foldlM addPlace ⟨[], home⟩
  let m : Machine :=
    { files, environment
      xinput := .missing
      runAs := .missing
      typed := ""
      printed := ""
      notices := [] }
  let files ← (optionPlaces m args).foldlM addPlace files
  pure { m with files }

/-- The number that the run ends with. -/
def exitCode : Daemon.Exit → UInt32
  | .code n => n.toUInt32
  | .killed s => 128 + s.number.toUInt32

end KeyChord.Picture

open KeyChord in
/-- Runs the program. -/
def main (args : List String) : IO UInt32 := do
  let machine ← Picture.take args
  let (conclusion, machine) := (Daemon.run args).run machine
  (← IO.getStdout).putStr machine.printed
  (← IO.getStderr).putStr (Daemon.standardError conclusion.debug machine)
  pure (Picture.exitCode conclusion.exit)
