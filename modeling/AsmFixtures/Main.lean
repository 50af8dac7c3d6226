import AsmFixtures.CommandLine.Run
import AsmFixtures.Files.Exchange

/-! The program. It looks at the files and variables that a run depends on, runs, and
carries out what the run did. It is linked with no encoder library, so every attempt to
build one fails, and with no names of characters but the ASCII ones. -/

namespace AsmFixtures.Program

def missingLibrary : Encoder.Builder := fun _ _ => .error "libxed not found"

def environment : IO Environment :=
  Environment.names.filterMapM fun name => return (← IO.getEnv name).map (name, ·)

def readOrEmpty (path : String) : IO String := do
  match ← (IO.FS.readFile path).toBaseIO with
  | .ok text => return text
  | .error _ => return ""

def userNumber? (status : String) : Option String :=
  (Text.lines status).findSome? fun line =>
    if Text.firstWord? line = some "Uid:" then
      (Text.afterFirstWord? line).bind Text.firstWord?
    else none

def homeOf? (accounts user : String) : Option String :=
  (Text.split '\n' accounts).findSome? fun entry =>
    match Text.split ':' entry with
    | [_, _, number, _, _, home, _] => if number = user then some home else none
    | _ => none

def accountHome : IO (Option String) := do
  let user := userNumber? (← readOrEmpty "/proc/self/status")
  return user.bind (homeOf? (← readOrEmpty "/etc/passwd"))

def columns : IO Nat := do
  let width := (← IO.getEnv "COLUMNS").bind String.toNat?
  return (width.filter (0 < ·)).getD 80

/-- Reading a directory as a file fails with the system error 21. -/
def look (path : String) : IO (Option Finding) := do
  match ← (IO.FS.readFile path).toBaseIO with
  | .ok text => return some (.file text)
  | .error (.inappropriateType _ 21 _) => return some .directory
  | .error _ => return none

def gather (paths : List String) : IO FileTree :=
  (paths.flatMap Path.openings).foldlM (fun (tree : FileTree) path => do
    return ((← look path).map (tree.takeUp path)).getD tree) {}

def carryOut (before after : FileTree) : IO Unit := do
  for path in after.newDirectories before do
    IO.FS.createDirAll path
  for (path, text) in after.changedFiles before do
    IO.FS.writeFile path text

def exitCode : CommandLine.Ending → IO UInt32
  | .exit code => return code.toUInt32
  | .raised error => do
    IO.eprintln error.message
    return 1

end AsmFixtures.Program

open AsmFixtures Program

def main (args : List String) : IO UInt32 := do
  let launch : CommandLine.Launch :=
    { environment := ← environment
      accountHome := ← accountHome
      builder := missingLibrary
      programName := "x86asmtest"
      columns := ← columns
      characterNames := Pattern.asciiNames }
  let before ← gather (CommandLine.paths args launch.toHost)
  let run := CommandLine.run args launch { tree := before }
  carryOut before run.shared.tree
  IO.print run.stdout
  IO.eprint run.stderr
  exitCode run.ending
