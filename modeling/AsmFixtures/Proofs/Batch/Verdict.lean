import AsmFixtures.CommandLine.Run
import AsmFixtures.Proofs.Batch.Step
import AsmFixtures.Proofs.Encoder.Cascade
import AsmFixtures.Proofs.OperandClass.Domain

/-! Runs with the engine of the process. The library alone settles each attempt, by the
cascade of checks that an instruction goes through. Arguments from the tables pass the checks
of operands, so only an unknown name stops a run, and no failure is attributed to an
argument. -/

namespace AsmFixtures

open OperandClass

namespace Encoder

/-- Calls get an engine of this library, which remembers nothing but its answers: a new one,
or one that has served other calls. -/
def Shared.Offers (host : Host) (library : Library) (s : Shared) : Prop :=
  ∃ session printed next, s.obtain host = (.ok (library, session), printed, next) ∧
    session.Faithful library

theorem Shared.encode_of_offers {host : Host} {library : Library} {s : Shared}
    (h : s.Offers host library) (inst : Instruction) :
    (s.encode host inst).1 = library.encode? inst ∧
      (s.encode host inst).2.2.Offers host library := by
  obtain ⟨session, printed, next, engine, faithful⟩ := h
  have after := Session.faithful_makeAll faithful (Script.encode library inst).calls
  unfold Shared.encode
  simp only [engine, Engine.follows_encode inst session faithful]
  exact ⟨Script.result_encode library inst, _, _, _, rfl, after⟩

def verdict : Except Failure (List UInt8) → Verdict Failure
  | .ok bytes => .encoded (hexText bytes)
  | .error (.refused error) => .refused error
  | .error cause => .fatal cause

theorem encodeShared_eq (host : Host) (inst : Instruction) (s : Shared) :
    CommandLine.encodeShared host inst s =
      (verdict (s.encode host inst).1, (s.encode host inst).2) := by
  unfold CommandLine.encodeShared
  rcases s.encode host inst with ⟨(_ | _ | _ | _) | bytes, printed, next⟩ <;> rfl

theorem verdict_eq_encoded {answer : Except Failure (List UInt8)} {hex : String}
    (h : verdict answer = .encoded hex) : ∃ bytes, answer = .ok bytes ∧ hexText bytes = hex := by
  rcases answer with (_ | _ | _ | _) | bytes <;> cases h
  exact ⟨bytes, rfl, rfl⟩

theorem verdict_eq_refused {answer : Except Failure (List UInt8)} {error : EncodeError}
    (h : verdict answer = .refused error) : answer = .error (.refused error) := by
  rcases answer with (_ | _ | _ | _) | bytes <;> cases h
  rfl

theorem verdict_eq_fatal {answer : Except Failure (List UInt8)} {cause : Failure}
    (h : verdict answer = .fatal cause) :
    answer = .error cause ∧ ∀ error, cause ≠ .refused error := by
  rcases answer with (_ | _ | _ | _) | bytes <;> cases h <;> simp

theorem encodeShared_of_offers {host : Host} {library : Library} {s : Shared}
    (h : s.Offers host library) (inst : Instruction) :
    (CommandLine.encodeShared host inst s).1 = verdict (library.encode? inst) ∧
      (CommandLine.encodeShared host inst s).2.2.Offers host library := by
  obtain ⟨answer, after⟩ := Shared.encode_of_offers h inst
  rw [encodeShared_eq, answer]
  exact ⟨rfl, after⟩

end Encoder

open Encoder

namespace Step

/-- What the library makes of a step that goes on. -/
inductive Settled (library : Library) : Step → Outcome → Prop
  | skip (form : Form) (emptyKeys : List String) :
      Settled library (.skip form emptyKeys)
        (.skip ⟨form, "no arguments for " ++ Text.join ", " emptyKeys⟩)
  | failure {form : Form} {params : List Param} {args : List Entry} {error : EncodeError}
      (judged : Judged library (form.instruction params args) (.error (.refused error))) :
      Settled library (.attempt form params args)
        (.failure ⟨form, params, form.assembly args, error⟩)
  | fixture {form : Form} {params : List Param} {args : List Entry} {bytes : List UInt8}
      (judged : Judged library (form.instruction params args) (.ok bytes)) :
      Settled library (.attempt form params args)
        (.fixture ⟨Cpuid.normalize form.record.cpuid, form.assembly args, hexText bytes, form,
          params⟩)

variable {host : Host} {library : Library} {setting : Option String}

theorem settled_of_records {step : Step} {s next : Shared} {outcome : Outcome}
    (h : step.Records (CommandLine.encodeShared host) s outcome next)
    (offers : s.Offers host library) : Settled library step outcome ∧ next.Offers host library := by
  cases h with
  | skip form emptyKeys => exact ⟨.skip form emptyKeys, offers⟩
  | @fixture form params args _ hex answer =>
    obtain ⟨settled, after⟩ := encodeShared_of_offers offers (form.instruction params args)
    obtain ⟨bytes, encoded, rfl⟩ := verdict_eq_encoded (settled.symm.trans answer)
    exact ⟨.fixture (encoded ▸ judged_encode? library _), after⟩
  | @failure form params args _ error answer =>
    obtain ⟨settled, after⟩ := encodeShared_of_offers offers (form.instruction params args)
    have refused := verdict_eq_refused (settled.symm.trans answer)
    exact ⟨.failure (refused ▸ judged_encode? library _), after⟩

theorem settled_of_recordsAll {steps : List Step} {s last : Shared} {outcomes : List Outcome}
    (h : RecordsAll (CommandLine.encodeShared host) setting steps s outcomes last)
    (offers : s.Offers host library) :
    List.Forall₂ (Settled library) steps outcomes ∧ last.Offers host library := by
  induction h with
  | nil => exact ⟨.nil, offers⟩
  | cons _ records _ ih =>
    obtain ⟨settled, after⟩ := settled_of_records records offers
    obtain ⟨others, last⟩ := ih after
    exact ⟨.cons settled others, last⟩

theorem ofArguments_of_mem_plan {forms : List Form} {sampler : Sampler} {form : Form}
    {params : List Param} {args : List Entry}
    (h : .attempt form params args ∈ plan forms sampler) :
    ∃ os, Operand.ofArguments (form.instruction params args).args = .ok os := by
  have entries := (attempted_of_mem_plan h).entries
  apply Operand.ofArgumentsFrom_of_supplied
  intro a mem
  obtain ⟨e, here, rfl⟩ := List.mem_map.mp mem
  clear h mem
  generalize form.keys = keys at entries
  induction entries with
  | nil => cases here
  | cons first _ ih =>
    rcases List.mem_cons.mp here with rfl | later
    · exact supplied_of_mem_domain first
    · exact ih later

theorem config_of_judged {inst : Instruction} {cause : Failure} {os : List Operand}
    (converted : Operand.ofArguments inst.args = .ok os)
    (h : Judged library inst (.error cause)) (fatal : ∀ error, cause ≠ .refused error) :
    ∃ unknown, cause = .config unknown := by
  cases h with
  | unknownOpcode => exact ⟨_, rfl⟩
  | unknownRegister => exact ⟨_, rfl⟩
  | argument _ _ rejected =>
    rw [converted] at rejected
    cases rejected
  | tooManyArguments => exact absurd rfl (fatal _)
  | conversion => exact absurd rfl (fatal _)
  | encoding => exact absurd rfl (fatal _)

theorem config_of_raises {step : Step} {s : Shared} {stop : Stop Failure}
    (named : ∀ form params args, step = .attempt form params args → form.record.Named)
    (valid : (Silence.parse? setting).isOk)
    (converted : ∀ form params args, step = .attempt form params args →
      ∃ os, Operand.ofArguments (form.instruction params args).args = .ok os)
    (offers : s.Offers host library)
    (h : step.Raises (CommandLine.encodeShared host) setting s stop) :
    ∃ form params args unknown, step = .attempt form params args ∧
      Judged library (form.instruction params args) (.error (.config unknown)) ∧
      stop = .encoder (.config unknown) := by
  obtain ⟨form, params, args, cause, rfl, answer, rfl⟩ := fatal_of_raises named valid h
  obtain ⟨os, operands⟩ := converted form params args rfl
  have reply := (encodeShared_of_offers offers (form.instruction params args)).1
  obtain ⟨fatal, not_refused⟩ := verdict_eq_fatal (reply.symm.trans answer)
  have judged : Judged library (form.instruction params args) (.error cause) :=
    fatal ▸ judged_encode? library _
  obtain ⟨unknown, rfl⟩ := config_of_judged operands judged not_refused
  exact ⟨form, params, args, unknown, rfl, judged, rfl⟩

theorem refusal_of_judged {inst : Instruction} {error : EncodeError} {os : List Operand}
    (converted : Operand.ofArguments inst.args = .ok os)
    (h : Judged library inst (.error (.refused error))) :
    error.index = none ∧ (error.refusal.refuser = .encoder ∨
      ∃ n, 5 < n ∧ error.message = "unexpected number of args: " ++ toString n) := by
  generalize answer : Except.error (Failure.refused error) = result at h
  cases h with
  | tooManyArguments _ many =>
    cases answer
    exact ⟨rfl, .inr ⟨_, many, rfl⟩⟩
  | argument _ _ rejected =>
    rw [converted] at rejected
    cases rejected
  | conversion =>
    cases answer
    exact ⟨rfl, .inl rfl⟩
  | encoding =>
    cases answer
    exact ⟨rfl, .inl rfl⟩
  | unknownOpcode => cases answer
  | unknownRegister => cases answer
  | encoded => cases answer

theorem judged_of_mem_failures {steps : List Step} {outcomes : List Outcome}
    (h : List.Forall₂ (Settled library) steps outcomes) {f : FailedCombination}
    (mem : f ∈ outcomes.filterMap Outcome.failure?) :
    ∃ form params args, .attempt form params args ∈ steps ∧
      Judged library (form.instruction params args) (.error (.refused f.error)) := by
  induction h with
  | nil => cases mem
  | cons first _ ih =>
    cases first with
    | failure judged =>
      rcases List.mem_cons.mp mem with rfl | later
      · exact ⟨_, _, _, List.mem_cons_self, judged⟩
      · obtain ⟨form, params, args, here, judged⟩ := ih later
        exact ⟨form, params, args, List.mem_cons_of_mem _ here, judged⟩
    | skip =>
      obtain ⟨form, params, args, here, judged⟩ := ih mem
      exact ⟨form, params, args, List.mem_cons_of_mem _ here, judged⟩
    | fixture =>
      obtain ⟨form, params, args, here, judged⟩ := ih mem
      exact ⟨form, params, args, List.mem_cons_of_mem _ here, judged⟩

end Step

namespace Batch

open Step

theorem run_settles_attempts_in_order (host : Host) (library : Library) (shared : Shared)
    (setting : Option String) (forms : List Form) (sampler : Sampler)
    (named : ∀ f ∈ forms, f.record.Named) (valid : (Silence.parse? setting).isOk)
    (offers : shared.Offers host library) :
    let steps := Step.plan forms sampler
    let run := (ofForms (CommandLine.encodeShared host) setting forms sampler shared).1
    (∀ form params args, .attempt form params args ∈ steps →
      ∃ os, Operand.ofArguments (form.instruction params args).args = .ok os) ∧
    (∃ done rest, steps = done ++ rest ∧ List.Forall₂ (Settled library) done run.outcomes ∧
      ((rest = [] ∧ run.stop = none) ∨
        ∃ form params args more unknown, rest = .attempt form params args :: more ∧
          Judged library (form.instruction params args) (.error (.config unknown)) ∧
          run.stop = some (.encoder (.config unknown)))) ∧
    ∀ f ∈ run.failures, f.error.index = none ∧
      (f.error.refusal.refuser = .encoder ∨
        ∃ n, 5 < n ∧ f.error.message = "unexpected number of args: " ++ toString n) := by
  intro steps run
  have converted : ∀ form params args, .attempt form params args ∈ steps →
      ∃ os, Operand.ofArguments (form.instruction params args).args = .ok os :=
    fun _ _ _ mem => ofArguments_of_mem_plan mem
  have sound : ∀ step ∈ steps, step.Sound := fun step mem => sound_of_named named mem
  have performed : run = (ofSteps (CommandLine.encodeShared host) setting steps shared).1 := by
    rw [← ofForms_eq_ofSteps_plan]
  have split : ∃ done rest, steps = done ++ rest ∧
      List.Forall₂ (Settled library) done run.outcomes ∧
      ((rest = [] ∧ run.stop = none) ∨
        ∃ form params args more unknown, rest = .attempt form params args :: more ∧
          Judged library (form.instruction params args) (.error (.config unknown)) ∧
          run.stop = some (.encoder (.config unknown))) := by
    rw [performed]
    rcases ofSteps_cases (CommandLine.encodeShared host) setting sound shared with
      ⟨going, all⟩ | ⟨before, step, after, state, stop, split, all, raises, stopped⟩
    · have settled := (settled_of_recordsAll all offers).1
      exact ⟨steps, [], (List.append_nil _).symm, settled, .inl ⟨rfl, going⟩⟩
    · obtain ⟨settled, last⟩ := settled_of_recordsAll all offers
      have mem : step ∈ steps := by simp [split]
      obtain ⟨form, params, args, unknown, rfl, judged, rfl⟩ :=
        config_of_raises (named_of_mem_plan named mem) valid
          (fun form params args same => converted form params args (same ▸ mem)) last raises
      exact ⟨before, _, split, settled,
        .inr ⟨form, params, args, after, unknown, rfl, judged, stopped⟩⟩
  refine ⟨converted, split, ?_⟩
  obtain ⟨done, rest, planned, settled, _⟩ := split
  intro f mem
  obtain ⟨form, params, args, here, judged⟩ := judged_of_mem_failures settled mem
  obtain ⟨os, operands⟩ := converted form params args (planned ▸ List.mem_append_left rest here)
  exact refusal_of_judged operands judged

/-- The second attempt names a register that the library does not know. -/
theorem run_settles_attempts_before_unknown_register :
    let mask : Form := ⟨{ intel := "KNOTQ k1, k2", go := "KNOTQ K2, K1" }, ["k1", "k2"]⟩
    let library : Library :=
      { opcode := fun _ => 1, register := fun name => if name = "K0" then 0 else 9
        converts := fun _ => true, encode := fun _ => .ok [0x90] }
    let host : Host := ⟨[], none, fun _ _ => .ok library⟩
    let shared : Shared := { engine := some (library, .start) }
    (∀ f ∈ [mask], f.record.Named) ∧ (Silence.parse? none).isOk ∧ shared.Offers host library ∧
      ∃ done form params args more unknown,
        Step.plan [mask] {} = done ++ .attempt form params args :: more ∧
        List.Forall₂ (Settled library) done
          (ofForms (CommandLine.encodeShared host) none [mask] {} shared).1.outcomes ∧
        Judged library (form.instruction params args) (.error (.config unknown)) := by
  intro mask library host shared
  have named : ∀ f ∈ [mask], f.record.Named := by
    intro f mem
    obtain rfl := List.mem_singleton.mp mem
    exact ⟨by decide +kernel, by decide +kernel⟩
  have valid : (Silence.parse? none).isOk := by decide +kernel
  have offers : shared.Offers host library := ⟨.start, "", shared, rfl, Session.faithful_start⟩
  have stops : (ofForms (CommandLine.encodeShared host) none [mask] {} shared).1.stop.isSome =
      true := by decide +kernel
  obtain ⟨_, ⟨done, rest, planned, settled, ending⟩, _⟩ :=
    run_settles_attempts_in_order host library shared none [mask] {} named valid offers
  rcases ending with ⟨_, going⟩ | ⟨form, params, args, more, unknown, rfl, judged, _⟩
  · rw [going] at stops
    cases stops
  · exact ⟨named, valid, offers, done, form, params, args, more, unknown, planned, settled, judged⟩

end Batch

end AsmFixtures
