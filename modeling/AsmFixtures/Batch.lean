import AsmFixtures.Cpuid
import AsmFixtures.Database.Record
import AsmFixtures.EncodeError
import AsmFixtures.OperandClass.Normal
import AsmFixtures.OperandClass.Sampler
import AsmFixtures.Silence
import AsmFixtures.Variant

/-! Generating fixtures for a list of forms. A form is planned first: either it is skipped,
because one of its operand classes has no arguments, or every parameter set is tried with
every combination of arguments. Then its steps are performed one after the other. A step
leaves a fixture, a failure or a skip, and the run goes on; or it stops the run, and what
earlier steps left is all there is. -/

namespace AsmFixtures

inductive Verdict (φ : Type)
  | encoded (hex : String)
  | refused (error : EncodeError)
  | fatal (cause : φ)

/-- An encoder with a state of its own, which may print. -/
abbrev Encode (σ φ : Type) := Instruction → σ → Verdict φ × String × σ

structure Fixture where
  cpuid : String
  asm : String
  hex : String
  form : Form
  params : List Param

structure FailedCombination where
  form : Form
  params : List Param
  asm : String
  error : EncodeError

structure SkippedForm where
  form : Form
  reason : String

inductive Outcome
  | fixture (f : Fixture)
  | failure (f : FailedCombination)
  | skip (s : SkippedForm)

namespace Outcome

def fixture? : Outcome → Option Fixture
  | fixture f => some f
  | _ => none

def failure? : Outcome → Option FailedCombination
  | failure f => some f
  | _ => none

def skip? : Outcome → Option SkippedForm
  | skip s => some s
  | _ => none

end Outcome

inductive Stop (φ : Type)
  | blankSyntax
  | silence (cause : SilenceError)
  | encoder (cause : φ)

namespace Form

def keys (f : Form) : List String :=
  f.args.map (OperandClass.normalize (f.record.intelOpcode?.getD ""))

end Form

inductive Step
  | skip (form : Form) (emptyKeys : List String)
  | attempt (form : Form) (params : List Param) (args : List OperandClass.Entry)

namespace Step

def skipReason (emptyKeys : List String) : String :=
  "no arguments for " ++ Text.join ", " emptyKeys

def attempts (form : Form) (keys : List String)
    (combinations : List (List OperandClass.Entry)) : List Step :=
  (Variant.all form.record.encoding keys).flatMap fun params =>
    combinations.map (attempt form params)

/-- The steps of a form. A form that is skipped draws nothing from the sampler. -/
def ofForm (form : Form) (sampler : Sampler) : List Step × Sampler :=
  let keys := form.keys
  let emptyKeys := keys.filter fun key => Sampler.peekCount key = 0
  if emptyKeys.isEmpty then
    let (combinations, next) := sampler.combinations keys
    (attempts form keys combinations, next)
  else ([skip form emptyKeys], sampler)

abbrev Result (σ φ : Type) := Except (Stop φ) Outcome × String × σ

def performSkip {σ φ : Type} (setting : Option String) (form : Form)
    (emptyKeys : List String) (s : σ) : Result σ φ :=
  let reason := skipReason emptyKeys
  match form.text? with
  | none => (.error .blankSyntax, "", s)
  | some text =>
    match logged? setting .skippedForm ("SKIPPED(" ++ text ++ "): " ++ reason ++ "\n") with
    | .error e => (.error (.silence e), "", s)
    | .ok printed => (.ok (.skip ⟨form, reason⟩), printed, s)

def failureEntry (asm : String) (params : List Param) (error : EncodeError) : String :=
  "FAILED(" ++ asm ++ ") [" ++ Param.listing params ++ "]: " ++ error.message ++ "\n"

def recordFailure {φ : Type} (setting : Option String) (failed : FailedCombination) :
    Except (Stop φ) Outcome × String :=
  match logged? setting .failedEncoding
      (failureEntry failed.asm failed.params failed.error) with
  | .error e => (.error (.silence e), "")
  | .ok printed => (.ok (.failure failed), printed)

def performAttempt {σ φ : Type} (encode : Encode σ φ) (setting : Option String)
    (form : Form) (params : List Param) (args : List OperandClass.Entry) (s : σ) :
    Result σ φ :=
  match form.record.goOpcode?, form.record.intelOpcode? with
  | some goOpcode, some opcode =>
    let asm := GoSyntax.line goOpcode (args.map (·.goSyntax))
    let cpuid := Cpuid.normalize form.record.cpuid
    let (verdict, printed, next) := encode (.of opcode params (args.map (·.argument))) s
    match verdict with
    | .encoded hex => (.ok (.fixture ⟨cpuid, asm, hex, form, params⟩), printed, next)
    | .refused error =>
      let (result, entry) := recordFailure setting ⟨form, params, asm, error⟩
      (result, printed ++ entry, next)
    | .fatal cause => (.error (.encoder cause), printed, next)
  | _, _ => (.error .blankSyntax, "", s)

def perform {σ φ : Type} (encode : Encode σ φ) (setting : Option String) (step : Step)
    (s : σ) : Result σ φ :=
  match step with
  | skip form emptyKeys => performSkip setting form emptyKeys s
  | attempt form params args => performAttempt encode setting form params args s

end Step

/-- What a sequence of steps gave: the outcomes in order, the printed texts in order, and
why it stopped if it did. -/
structure Batch (φ : Type) where
  outcomes : List Outcome := []
  printed : List String := []
  stop : Option (Stop φ) := none

namespace Batch

def fixtures {φ : Type} (b : Batch φ) : List Fixture := b.outcomes.filterMap Outcome.fixture?

def failures {φ : Type} (b : Batch φ) : List FailedCombination :=
  b.outcomes.filterMap Outcome.failure?

def skips {φ : Type} (b : Batch φ) : List SkippedForm := b.outcomes.filterMap Outcome.skip?

def printedText {φ : Type} (b : Batch φ) : String := Text.concat b.printed

def append {φ : Type} (a b : Batch φ) : Batch φ :=
  ⟨a.outcomes ++ b.outcomes, a.printed ++ b.printed, a.stop.or b.stop⟩

def ofSteps {σ φ : Type} (encode : Encode σ φ) (setting : Option String) :
    List Step → σ → Batch φ × σ
  | [], s => ({}, s)
  | step :: rest, s =>
    match step.perform encode setting s with
    | (.error stop, printed, next) => (⟨[], [printed], some stop⟩, next)
    | (.ok outcome, printed, next) =>
      let (batch, last) := ofSteps encode setting rest next
      (⟨outcome :: batch.outcomes, printed :: batch.printed, batch.stop⟩, last)

def ofForm {σ φ : Type} (encode : Encode σ φ) (setting : Option String) (form : Form)
    (sampler : Sampler) (s : σ) : Batch φ × Sampler × σ :=
  let (steps, next) := Step.ofForm form sampler
  let (batch, state) := ofSteps encode setting steps s
  (batch, next, state)

def contributions {σ φ : Type} (encode : Encode σ φ) (setting : Option String) :
    List Form → Sampler → σ → List (Form × Batch φ) × Sampler × σ
  | [], sampler, s => ([], sampler, s)
  | form :: rest, sampler, s =>
    let (batch, next, state) := ofForm encode setting form sampler s
    if batch.stop.isSome then ([(form, batch)], next, state)
    else
      let (others, last) := contributions encode setting rest next state
      ((form, batch) :: others, last)

def sum {φ : Type} (batches : List (Batch φ)) : Batch φ := batches.foldr append {}

def ofForms {σ φ : Type} (encode : Encode σ φ) (setting : Option String) (forms : List Form)
    (sampler : Sampler) (s : σ) : Batch φ × σ :=
  let (parts, _, state) := contributions encode setting forms sampler s
  (sum (parts.map Prod.snd), state)

end Batch

end AsmFixtures
