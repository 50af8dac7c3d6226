import AsmFixtures.Digest.Sha1
import AsmFixtures.Encoder.Engine
import AsmFixtures.Environment
import AsmFixtures.Files.Tree
import AsmFixtures.Silence

/-! The engine that a whole process shares. There is none at first; a call that needs it
builds the library in a cache directory, and keeps the engine if that succeeds. A failed
build leaves the process without an engine, so the next call tries again. -/

namespace AsmFixtures.Encoder

/-- The home directory, without slashes at its end. The environment goes before the account; where
neither has one, the tilde that was to be replaced stays. -/
def homeDirectory (env : Environment) (accountHome : Option String) : String :=
  match (env.get? "HOME").or accountHome with
  | none => "~"
  | some home =>
    let trimmed := String.ofList (Path.dropEndSlashes home.toList)
    if trimmed.isEmpty then "/" else trimmed

def cacheDirectory (env : Environment) (accountHome : Option String) : String :=
  match env.get? "X86ASMTEST_CACHE_DIR" with
  | some directory => directory
  | none =>
    let base := (env.get? "XDG_CACHE_HOME").getD
      (Path.join (homeDirectory env accountHome) ".cache")
    Path.join base "x86asmtest"

structure BuildPlan where
  moduleName : String
  source : String
  directory : String
  libraries : List String
  includeDirectories : List String
  libraryDirectories : List String
deriving DecidableEq

namespace BuildPlan

def directoryName (env : Environment) : String :=
  let places := (env.get? "XED_INCLUDE_DIR").getD "" ++ "|" ++
    (env.get? "XED_LIBRARY_DIR").getD ""
  String.ofList ((Digest.Sha1.hexDigest places.toUTF8.toList).toList.take 12)

def ofEnvironment (env : Environment) (accountHome : Option String) : BuildPlan where
  moduleName := "_x86asmtest_xed"
  source := "#include \"xed/xed-interface.h\"\n"
  directory := Path.join (cacheDirectory env accountHome) (directoryName env)
  libraries := ["xed"]
  includeDirectories := (env.get? "XED_INCLUDE_DIR").toList
  libraryDirectories := (env.get? "XED_LIBRARY_DIR").toList

end BuildPlan

/-- A build step, which may answer each attempt differently; the attempts are numbered
from zero. A failure is told in words. -/
abbrev Builder := Nat → BuildPlan → Except String Library

structure Host where
  environment : Environment
  accountHome : Option String
  builder : Builder

namespace Host

def cacheDirectory (host : Host) : String :=
  Encoder.cacheDirectory host.environment host.accountHome

def plan (host : Host) : BuildPlan := .ofEnvironment host.environment host.accountHome

end Host

structure BuildAttempt where
  plan : BuildPlan
  directoryMade : Bool

/-- The engine of a process, the attempts to build it, the latest first, and its files. -/
structure Shared where
  engine : Option (Library × Session) := none
  attempts : List BuildAttempt := []
  tree : FileTree := {}

namespace Shared

def attemptCount (s : Shared) : Nat := s.attempts.length

def install (s : Shared) (library : Library) (session : Session) : Shared :=
  { s with engine := some (library, session) }

/-- One attempt: the directory is made, the attempt is logged, the build step runs. The
text is what was printed. -/
def build (host : Host) (s : Shared) : Except String Library × String × Shared :=
  let plan := host.plan
  match (FileWork.ensureDirectory plan.directory).runOn s.tree with
  | (.error e, tree) => (.error e.message, "", { s with tree := tree })
  | (.ok (), tree) =>
    match logged? host.environment.silence .general
        ("building XED binding in " ++ plan.directory ++ "\n") with
    | .error e => (.error e.message, "", { s with tree := tree })
    | .ok printed =>
      let attempt := ⟨plan, tree.hasDirectory plan.directory⟩
      (host.builder s.attemptCount plan, printed,
        { s with tree := tree, attempts := attempt :: s.attempts })

def obtain (host : Host) (s : Shared) :
    Except ConfigError (Library × Session) × String × Shared :=
  match s.engine with
  | some engine => (.ok engine, "", s)
  | none =>
    match s.build host with
    | (.error reason, printed, next) => (.error (.noEncoder reason), printed, next)
    | (.ok library, printed, next) =>
      (.ok (library, .start), printed, next.install library .start)

def available (host : Host) (s : Shared) : Except SilenceError Bool × String × Shared :=
  match s.obtain host with
  | (.ok _, printed, next) => (.ok true, printed, next)
  | (.error e, printed, next) =>
    match logged? host.environment.silence .general
        ("XED unavailable: " ++ e.message ++ "\n") with
    | .ok more => (.ok false, printed ++ more, next)
    | .error cause => (.error cause, printed, next)

def encode (host : Host) (inst : Instruction) (s : Shared) :
    Except Failure (List UInt8) × String × Shared :=
  match s.obtain host with
  | (.error e, printed, next) => (.error (.config e), printed, next)
  | (.ok (library, session), printed, next) =>
    let (result, session) := (Engine.encode library inst).runOn session
    (result, printed, next.install library session)

end Shared

end AsmFixtures.Encoder
