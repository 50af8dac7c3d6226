import AsmFixtures.CommandLine.Help
import AsmFixtures.Database
import AsmFixtures.Encoder.Shared
import AsmFixtures.Listing

/-! A run of the program: the instruction list is read, fixtures are generated for the
forms that the options select, and the files are written. Nothing is written before
all fixtures are there. Errors of configuration end a run with a message; any other
error ends it as it is. -/

namespace AsmFixtures.CommandLine

structure Launch extends Encoder.Host, Console where
  characterNames : Pattern.CharacterNames

inductive RunError
  | file (cause : FileError)
  | read (cause : ReadError)
  | pattern (cause : Pattern.Defect)
  | blankSyntax
  | silence (cause : SilenceError)
  | encoder (cause : Encoder.Failure)

namespace RunError

def message : RunError → String
  | file cause => cause.message
  | read cause => cause.message
  | pattern cause => cause.message
  | blankSyntax => "the syntax of an instruction is blank"
  | silence cause => cause.message
  | encoder cause => cause.message

def ofStop : Stop Encoder.Failure → RunError
  | .blankSyntax => blankSyntax
  | .silence cause => silence cause
  | .encoder cause => encoder cause

end RunError

inductive Ending
  | exit (code : Nat)
  | raised (error : RunError)

structure Run where
  ending : Ending
  stdout : String := ""
  stderr : String := ""
  /-- The log setting that the run left behind. -/
  silence : Option String
  shared : Encoder.Shared

def encodeShared (host : Encoder.Host) : Encode Encoder.Shared Encoder.Failure :=
  fun inst s =>
    match s.encode host inst with
    | (.ok bytes, printed, next) => (.encoded (Encoder.hexText bytes), printed, next)
    | (.error (.refused error), printed, next) => (.refused error, printed, next)
    | (.error cause, printed, next) => (.fatal cause, printed, next)

def summary (fixtures files skipped failed : Nat) : String :=
  toString fixtures ++ " fixtures in " ++ toString files ++ " files, " ++ toString skipped ++
    " forms skipped, " ++ toString failed ++ " combinations failed\n"

def reportPath (outdir : String) : String := Path.join outdir "report.txt"

def emit (outdir : String) (batch : Batch Encoder.Failure) : FileWork Nat := do
  let paths ← Listing.write outdir batch.lines
  FileWork.write (reportPath outdir) batch.report
  return paths.length

def selectedForms? (names : Pattern.CharacterNames) (tree : FileTree) (options : Options) :
    Except RunError (List Form) := do
  let text ← (tree.read? options.csv).mapError .file
  let database ← (Database.ofText? text).mapError .read
  (database.forms? names (some options.cpuid)).mapError .pattern

/-- A finished generation: its files are written unless it stopped. -/
def conclude (programName : String) (options : Options) (silence : Option String)
    (batch : Batch Encoder.Failure) (shared : Encoder.Shared) : Run :=
  let printed := batch.printedText
  match batch.stop with
  | some (.encoder (.config cause)) =>
    { ending := .exit 1
      stdout := printed
      stderr := programName ++ ": configuration error: " ++ cause.message ++ "\n"
      silence := silence
      shared := shared }
  | some stop => ⟨.raised (.ofStop stop), printed, "", silence, shared⟩
  | none =>
    match (emit options.outdir batch).runOn shared.tree with
    | (.error e, tree) =>
      ⟨.raised (.file e), printed, "", silence, { shared with tree := tree }⟩
    | (.ok files, tree) =>
      ⟨.exit 0, printed ++ summary batch.fixtures.length files batch.skips.length
        batch.failures.length, "", silence, { shared with tree := tree }⟩

/-- Without the log option, the log is silenced for the rest of the process. -/
def Options.environment (options : Options) (env : Environment) : Environment :=
  if options.log then env else env.set "SILENCELOG" "1"

def runOptions (options : Options) (launch : Launch) (shared : Encoder.Shared) : Run :=
  let environment := options.environment launch.environment
  let host : Encoder.Host := { launch.toHost with environment := environment }
  let silence := environment.silence
  match selectedForms? launch.characterNames shared.tree options with
  | .error e => ⟨.raised e, "", "", silence, shared⟩
  | .ok forms =>
    let (batch, last) :=
      Batch.ofForms (encodeShared host) silence forms { rotate := options.rotate } shared
    conclude launch.programName options silence batch last

def paths (args : List String) (host : Encoder.Host) : List String :=
  match Options.parse args with
  | .ok options => [options.csv, options.outdir, host.plan.directory]
  | .error _ => []

def run (args : List String) (launch : Launch) (shared : Encoder.Shared) : Run :=
  let silence := launch.environment.silence
  match Options.parse args with
  | .error .help => ⟨.exit 0, launch.helpText, "", silence, shared⟩
  | .error (.misuse message) =>
    let complaint := launch.programName ++ ": error: " ++ message ++ "\n"
    ⟨.exit 2, "", launch.usageText ++ complaint, silence, shared⟩
  | .ok options => runOptions options launch shared

end AsmFixtures.CommandLine
