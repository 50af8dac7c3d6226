import AsmFixtures.Proofs.Batch.Plan
import AsmFixtures.Proofs.Silence

/-! Performing a step. The rules say when a step stops the run and what it records
otherwise; exactly one of the two happens, and the step does what the rules say. A skip
only needs a log setting that can be read. An attempt needs both opcodes and an encoder
that goes on, and a log setting that can be read if the encoder refuses. -/

namespace AsmFixtures

open OperandClass

namespace Form

def opcode (f : Form) : String := f.record.intelOpcode?.getD ""

def instruction (f : Form) (params : List Param) (args : List Entry) : Instruction :=
  .of f.opcode params (args.map (·.argument))

def assembly (f : Form) (args : List Entry) : String :=
  GoSyntax.line (f.record.goOpcode?.getD "") (args.map (·.goSyntax))

end Form

/-- Replies with one answer and one text, and with related states behind them. -/
inductive SameReply {α σ τ : Type} (R : σ → τ → Prop) : α × String × σ → α × String × τ → Prop
  | intro {answer : α} {printed : String} {s : σ} {t : τ} (states : R s t) :
      SameReply R (answer, printed, s) (answer, printed, t)

namespace Step

variable {σ φ : Type} {encode : Encode σ φ} {setting : Option String}

/-- When a step stops the run, and why. The encoder is in the given state. -/
inductive Raises (encode : Encode σ φ) (setting : Option String) :
    Step → σ → Stop φ → Prop
  | skip {form : Form} {emptyKeys : List String} {s : σ} {e : SilenceError}
      (invalid : Silence.parse? setting = .error e) :
      Raises encode setting (.skip form emptyKeys) s (.silence e)
  | blank {form : Form} {params : List Param} {args : List Entry} {s : σ}
      (blank : Text.AllBlank form.record.go ∨ Text.AllBlank form.record.intel) :
      Raises encode setting (.attempt form params args) s .blankSyntax
  | fatal {form : Form} {params : List Param} {args : List Entry} {s : σ} {cause : φ}
      (named : form.record.Named)
      (answer : (encode (form.instruction params args) s).1 = .fatal cause) :
      Raises encode setting (.attempt form params args) s (.encoder cause)
  | refused {form : Form} {params : List Param} {args : List Entry} {s : σ}
      {error : EncodeError} {e : SilenceError} (named : form.record.Named)
      (answer : (encode (form.instruction params args) s).1 = .refused error)
      (invalid : Silence.parse? setting = .error e) :
      Raises encode setting (.attempt form params args) s (.silence e)

inductive Records (encode : Encode σ φ) : Step → σ → Outcome → σ → Prop
  | skip (form : Form) (emptyKeys : List String) (s : σ) :
      Records encode (.skip form emptyKeys) s
        (.skip ⟨form, "no arguments for " ++ Text.join ", " emptyKeys⟩) s
  | fixture {form : Form} {params : List Param} {args : List Entry} {s : σ} {hex : String}
      (answer : (encode (form.instruction params args) s).1 = .encoded hex) :
      Records encode (.attempt form params args) s
        (.fixture ⟨Cpuid.normalize form.record.cpuid, form.assembly args, hex, form, params⟩)
        (encode (form.instruction params args) s).2.2
  | failure {form : Form} {params : List Param} {args : List Entry} {s : σ}
      {error : EncodeError}
      (answer : (encode (form.instruction params args) s).1 = .refused error) :
      Records encode (.attempt form params args) s
        (.failure ⟨form, params, form.assembly args, error⟩)
        (encode (form.instruction params args) s).2.2

inductive RecordsAll (encode : Encode σ φ) (setting : Option String) :
    List Step → σ → List Outcome → σ → Prop
  | nil (s : σ) : RecordsAll encode setting [] s [] s
  | cons {step : Step} {steps : List Step} {s next last : σ} {outcome : Outcome}
      {outcomes : List Outcome} (goes_on : ∀ stop, ¬ step.Raises encode setting s stop)
      (records : step.Records encode s outcome next)
      (rest : RecordsAll encode setting steps next outcomes last) :
      RecordsAll encode setting (step :: steps) s (outcome :: outcomes) last

def Sound : Step → Prop
  | skip form _ => ¬ Text.AllBlank form.record.intel
  | attempt _ _ _ => True

theorem performSkip_of_sound {form : Form} {emptyKeys : List String}
    (sound : (skip form emptyKeys).Sound) (s : σ) :
    (performSkip setting form emptyKeys s : Result σ φ) =
      match Silence.parse? setting with
      | .error e => (.error (.silence e), "", s)
      | .ok silence => (.ok (.skip ⟨form, skipReason emptyKeys⟩),
          if silence .skippedForm then ""
          else "SKIPPED(" ++ form.text?.getD "" ++ "): " ++ skipReason emptyKeys ++ "\n", s) := by
  obtain ⟨opcode, intel⟩ := Option.ne_none_iff_exists'.mp
    (mt (Text.firstWord?_eq_none_iff form.record.intel).mp sound)
  have text : form.text? = some (Text.trimEnd (opcode ++ " " ++ Text.join ", " form.args)) := by
    simp [Form.text?, Record.intelOpcode?, intel]
  cases valid : Silence.parse? setting with
  | error e => simp [performSkip, text, logged?_of_parse_error valid]
  | ok silence => simp [performSkip, text, logged?_of_parse_ok valid]

theorem performAttempt_of_blank {form : Form} (params : List Param) (args : List Entry) (s : σ)
    (blank : Text.AllBlank form.record.go ∨ Text.AllBlank form.record.intel) :
    performAttempt encode setting form params args s = (.error .blankSyntax, "", s) := by
  unfold performAttempt
  rcases blank with go | intel
  · rw [Record.goOpcode?, (Text.firstWord?_eq_none_iff _).mpr go]
  · rw [Record.intelOpcode?, (Text.firstWord?_eq_none_iff _).mpr intel]
    cases form.record.goOpcode? <;> rfl

theorem performAttempt_of_named {form : Form} (named : form.record.Named)
    (params : List Param) (args : List Entry) (s : σ) :
    performAttempt encode setting form params args s =
      let (verdict, printed, next) := encode (form.instruction params args) s
      match verdict with
      | .encoded hex =>
        (.ok (.fixture ⟨Cpuid.normalize form.record.cpuid, form.assembly args, hex, form,
          params⟩), printed, next)
      | .refused error =>
        let (result, entry) := recordFailure setting ⟨form, params, form.assembly args, error⟩
        (result, printed ++ entry, next)
      | .fatal cause => (.error (.encoder cause), printed, next) := by
  obtain ⟨opcode, goOpcode, intel, go⟩ := Record.exists_opcodes named
  unfold performAttempt Form.instruction Form.assembly Form.opcode
  rw [intel, go]
  rfl

theorem perform_of_raises {step : Step} {s : σ} {stop : Stop φ} (sound : step.Sound)
    (h : step.Raises encode setting s stop) :
    (step.perform encode setting s).1 = .error stop := by
  cases h with
  | skip invalid =>
    rw [perform, performSkip_of_sound sound, invalid]
  | blank blank =>
    rw [perform, performAttempt_of_blank _ _ _ blank]
  | @fatal form params args _ cause named answer =>
    rw [perform, performAttempt_of_named named]
    rcases reply : encode (form.instruction params args) s with ⟨verdict, printed, next⟩
    obtain rfl : verdict = .fatal cause := by simpa [reply] using answer
    rfl
  | @refused form params args _ error e named answer invalid =>
    rw [perform, performAttempt_of_named named]
    rcases reply : encode (form.instruction params args) s with ⟨verdict, printed, next⟩
    obtain rfl : verdict = .refused error := by simpa [reply] using answer
    simp [recordFailure, logged?_of_parse_error invalid]

theorem perform_of_goes_on {step : Step} {s : σ} (sound : step.Sound)
    (h : ∀ stop, ¬ step.Raises encode setting s stop) :
    ∃ outcome, (step.perform encode setting s).1 = .ok outcome ∧
      step.Records encode s outcome (step.perform encode setting s).2.2 := by
  cases step with
  | skip form emptyKeys =>
    rw [perform, performSkip_of_sound sound]
    cases valid : Silence.parse? setting with
    | error e => exact absurd (.skip valid) (h _)
    | ok silence => exact ⟨_, rfl, .skip form emptyKeys s⟩
  | attempt form params args =>
    have named : form.record.Named :=
      ⟨fun intel => h _ (.blank (.inr intel)), fun go => h _ (.blank (.inl go))⟩
    rw [perform, performAttempt_of_named named]
    rcases reply : encode (form.instruction params args) s with ⟨verdict, printed, next⟩
    have answer : (encode (form.instruction params args) s).1 = verdict := by rw [reply]
    have after : (encode (form.instruction params args) s).2.2 = next := by rw [reply]
    cases verdict with
    | encoded hex => exact ⟨_, rfl, after ▸ .fixture answer⟩
    | fatal cause => exact absurd (.fatal named answer) (h _)
    | refused error =>
      cases valid : Silence.parse? setting with
      | error e => exact absurd (.refused named answer valid) (h _)
      | ok silence =>
        refine ⟨.failure ⟨form, params, form.assembly args, error⟩, ?_, ?_⟩
        · simp [recordFailure, logged?_of_parse_ok valid]
        · exact after ▸ .failure answer

/-- A step stops the run exactly when the rules say so, and for their reason. -/
theorem perform_eq_error_iff {step : Step} {s : σ} {stop : Stop φ} (sound : step.Sound) :
    (step.perform encode setting s).1 = .error stop ↔ step.Raises encode setting s stop := by
  refine ⟨fun h => ?_, perform_of_raises sound⟩
  by_cases quiet : ∀ other, ¬ step.Raises encode setting s other
  · obtain ⟨outcome, ok, _⟩ := perform_of_goes_on sound quiet
    rw [ok] at h
    cases h
  · obtain ⟨other, raises⟩ := not_forall_not.mp quiet
    have same := (perform_of_raises sound raises).symm.trans h
    cases same
    exact raises

theorem fatal_of_raises {step : Step} {s : σ} {stop : Stop φ}
    (named : ∀ form params args, step = .attempt form params args → form.record.Named)
    (valid : (Silence.parse? setting).isOk) (h : step.Raises encode setting s stop) :
    ∃ form params args cause, step = .attempt form params args ∧
      (encode (form.instruction params args) s).1 = .fatal cause ∧ stop = .encoder cause := by
  obtain ⟨silence, parsed⟩ := exists_silence valid
  cases h with
  | skip invalid => cases parsed.symm.trans invalid
  | blank blank =>
    obtain ⟨intel, go⟩ := named _ _ _ rfl
    exact absurd blank (not_or.mpr ⟨go, intel⟩)
  | fatal _ answer => exact ⟨_, _, _, _, rfl, answer, rfl⟩
  | refused _ _ invalid => cases parsed.symm.trans invalid

theorem recordFailure_ne_fixture (failed : FailedCombination) (f : Fixture) :
    (recordFailure setting failed : Except (Stop φ) Outcome × String).1 ≠ .ok (.fixture f) := by
  unfold recordFailure
  split <;> simp

theorem attempt_of_perform_eq_fixture {step : Step} {s : σ} {f : Fixture}
    (h : (step.perform encode setting s).1 = .ok (.fixture f)) :
    ∃ params args, step = .attempt f.form params args ∧ f.form.record.Named ∧
      f.asm = f.form.assembly args ∧
      (encode (f.form.instruction params args) s).1 = .encoded f.hex := by
  cases step with
  | skip form emptyKeys =>
    unfold perform performSkip at h
    dsimp only at h
    split at h
    · cases h
    · split at h <;> cases h
  | attempt form params args =>
    by_cases blank : Text.AllBlank form.record.go ∨ Text.AllBlank form.record.intel
    · rw [perform, performAttempt_of_blank params args s blank] at h
      cases h
    · obtain ⟨go, intel⟩ := not_or.mp blank
      rw [perform, performAttempt_of_named ⟨intel, go⟩] at h
      rcases reply : encode (form.instruction params args) s with ⟨verdict, printed, next⟩
      rw [reply] at h
      cases verdict with
      | encoded hex =>
        obtain rfl := Outcome.fixture.inj (Except.ok.inj h)
        exact ⟨params, args, rfl, ⟨intel, go⟩, rfl, by rw [reply]⟩
      | refused error => exact absurd h (recordFailure_ne_fixture _ f)
      | fatal cause => cases h

theorem recordsAll_append {first second : List Step} {s last : σ} {outcomes : List Outcome}
    (h : RecordsAll encode setting (first ++ second) s outcomes last) :
    ∃ here later state, outcomes = here ++ later ∧
      RecordsAll encode setting first s here state ∧
      RecordsAll encode setting second state later last := by
  induction first generalizing s outcomes with
  | nil => exact ⟨[], outcomes, s, rfl, .nil s, h⟩
  | cons step rest ih =>
    cases h with
    | cons goes_on records tail =>
      obtain ⟨here, later, state, rfl, before, after⟩ := ih tail
      exact ⟨_ :: here, later, state, rfl, .cons goes_on records before, after⟩

theorem sound_of_mem_plan {forms : List Form}
    (argsOfBlank : ∀ f ∈ forms, Text.AllBlank f.record.intel → f.keys = [])
    {sampler : Sampler} {step : Step} (mem : step ∈ plan forms sampler) : step.Sound := by
  obtain ⟨form, here, before, taken⟩ := exists_form_of_mem_plan mem
  cases step with
  | attempt => trivial
  | skip other emptyKeys =>
    by_cases h : form.Skipped
    · rw [ofForm_of_skipped h] at taken
      cases List.mem_singleton.mp taken
      intro blank
      obtain ⟨key, none, _⟩ := h
      simp [argsOfBlank form here blank] at none
    · rw [ofForm_of_not_skipped h, attempts_eq_product] at taken
      obtain ⟨_, _, same⟩ := List.mem_map.mp taken
      cases same

theorem sound_of_named {forms : List Form} (named : ∀ f ∈ forms, f.record.Named)
    {sampler : Sampler} {step : Step} (mem : step ∈ plan forms sampler) : step.Sound :=
  sound_of_mem_plan (fun f hf blank => absurd blank (named f hf).intel) mem

theorem named_of_mem_plan {forms : List Form} (named : ∀ f ∈ forms, f.record.Named)
    {sampler : Sampler} {step : Step} (mem : step ∈ plan forms sampler) :
    ∀ form params args, step = .attempt form params args → form.record.Named := by
  intro form params args same
  subst same
  exact named form (attempted_of_mem_plan mem).mem

theorem state_perform (step : Step) (encode : Encode σ φ) (setting : Option String) (s : σ) :
    (step.perform encode setting s).2.2 = s ∨
      ∃ inst, (step.perform encode setting s).2.2 = (encode inst s).2.2 := by
  cases step with
  | skip form emptyKeys =>
    left
    unfold perform performSkip
    dsimp only
    split
    · rfl
    · split <;> rfl
  | attempt form params args =>
    unfold perform performAttempt
    dsimp only
    split
    · rename_i opcode _ _
      refine .inr ⟨.of opcode params (args.map (·.argument)), ?_⟩
      split <;> rfl
    · exact .inl rfl

theorem perform_sameReply {τ : Type} {R : σ → τ → Prop} {other : Encode τ φ} {step : Step}
    {s : σ} {t : τ} (related : R s t)
    (replies : ∀ form params args, step = .attempt form params args →
      SameReply R (encode (form.instruction params args) s)
        (other (form.instruction params args) t)) (setting : Option String) :
    SameReply R (step.perform encode setting s) (step.perform other setting t) := by
  cases step with
  | skip form emptyKeys =>
    unfold perform performSkip
    dsimp only
    split
    · exact .intro related
    · split <;> exact .intro related
  | attempt form params args =>
    rw [perform, perform]
    by_cases blank : Text.AllBlank form.record.go ∨ Text.AllBlank form.record.intel
    · rw [performAttempt_of_blank _ _ _ blank, performAttempt_of_blank _ _ _ blank]
      exact .intro related
    · obtain ⟨go, intel⟩ := not_or.mp blank
      rw [performAttempt_of_named ⟨intel, go⟩, performAttempt_of_named ⟨intel, go⟩]
      have reply := replies form params args rfl
      generalize encode (form.instruction params args) s = here at reply
      generalize other (form.instruction params args) t = there at reply
      cases reply with
      | @intro verdict printed next next' states => cases verdict <;> exact .intro states

end Step

namespace Batch

theorem ofSteps_cases {σ φ : Type} (encode : Encode σ φ) (setting : Option String)
    {steps : List Step} (sound : ∀ step ∈ steps, step.Sound) (s : σ) :
    ((ofSteps encode setting steps s).1.stop = none ∧
      Step.RecordsAll encode setting steps s (ofSteps encode setting steps s).1.outcomes
        (ofSteps encode setting steps s).2) ∨
    ∃ before step after state stop, steps = before ++ step :: after ∧
      Step.RecordsAll encode setting before s (ofSteps encode setting steps s).1.outcomes state ∧
      step.Raises encode setting state stop ∧
      (ofSteps encode setting steps s).1.stop = some stop := by
  induction steps generalizing s with
  | nil => exact .inl ⟨rfl, .nil s⟩
  | cons step rest ih =>
    have here := sound step List.mem_cons_self
    by_cases quiet : ∀ stop, ¬ step.Raises encode setting s stop
    · obtain ⟨outcome, ok, records⟩ := Step.perform_of_goes_on here quiet
      rcases reply : step.perform encode setting s with ⟨result, printed, next⟩
      obtain rfl : result = .ok outcome := by simpa [reply] using ok
      rw [reply] at records
      simp only [ofSteps, reply]
      rcases ih (fun other mem => sound other (List.mem_cons_of_mem _ mem)) next with
        ⟨going, all⟩ | ⟨before, raising, after, state, stop, rfl, all, raises, stopped⟩
      · exact .inl ⟨going, .cons quiet records all⟩
      · exact .inr ⟨step :: before, raising, after, state, stop, rfl, .cons quiet records all,
          raises, stopped⟩
    · obtain ⟨stop, raises⟩ := not_forall_not.mp quiet
      rcases reply : step.perform encode setting s with ⟨result, printed, next⟩
      obtain rfl : result = .error stop := by
        simpa [reply] using Step.perform_of_raises here raises
      simp only [ofSteps, reply]
      exact .inr ⟨[], step, rest, s, stop, rfl, .nil s, raises, rfl⟩

theorem exists_attempt_of_mem_fixtures {σ φ : Type} {encode : Encode σ φ}
    {setting : Option String} {steps : List Step} {s : σ} {f : Fixture}
    (mem : f ∈ (ofSteps encode setting steps s).1.fixtures) :
    ∃ params args state, .attempt f.form params args ∈ steps ∧ f.form.record.Named ∧
      f.asm = f.form.assembly args ∧
      (encode (f.form.instruction params args) state).1 = .encoded f.hex := by
  induction steps generalizing s with
  | nil => cases mem
  | cons step rest ih =>
    rcases reply : step.perform encode setting s with ⟨result, printed, next⟩
    rw [ofSteps, reply] at mem
    cases result with
    | error stop => cases mem
    | ok outcome =>
      have parts : .fixture f = outcome ∨ f ∈ (ofSteps encode setting rest next).1.fixtures := by
        simp only [fixtures, List.mem_filterMap, List.mem_cons, exists_eq_or_imp] at mem ⊢
        refine mem.imp (fun first => ?_) id
        cases outcome <;> simp_all [Outcome.fixture?]
      rcases parts with rfl | later
      · obtain ⟨params, args, rfl, made⟩ :=
          Step.attempt_of_perform_eq_fixture (congrArg Prod.fst reply)
        exact ⟨params, args, s, List.mem_cons_self, made⟩
      · obtain ⟨params, args, state, inRest, made⟩ := ih later
        exact ⟨params, args, state, List.mem_cons_of_mem _ inRest, made⟩

/-- Runs of one plan with encoders that reply alike to whatever is tried. -/
theorem ofSteps_of_sameReply {σ τ φ : Type} {R : σ → τ → Prop} {encode : Encode σ φ}
    {other : Encode τ φ} {steps : List Step}
    (replies : ∀ form params args, .attempt form params args ∈ steps → ∀ s t, R s t →
      SameReply R (encode (form.instruction params args) s)
        (other (form.instruction params args) t))
    (setting : Option String) {s : σ} {t : τ} (related : R s t) :
    (ofSteps encode setting steps s).1 = (ofSteps other setting steps t).1 ∧
      R (ofSteps encode setting steps s).2 (ofSteps other setting steps t).2 := by
  induction steps generalizing s t with
  | nil => exact ⟨rfl, related⟩
  | cons step rest ih =>
    have reply := Step.perform_sameReply related
      (fun form params args same => replies form params args (same ▸ List.mem_cons_self) s t
        related) setting
    have later : ∀ {s t}, R s t → _ := ih fun form params args mem =>
      replies form params args (List.mem_cons_of_mem _ mem)
    rw [ofSteps, ofSteps]
    generalize step.perform encode setting s = here at reply
    generalize step.perform other setting t = there at reply
    cases reply with
    | @intro result printed next next' states =>
      cases result with
      | error stop => exact ⟨rfl, states⟩
      | ok outcome =>
        obtain ⟨same, last⟩ := later states
        dsimp only
        rw [same]
        exact ⟨rfl, last⟩

theorem kept_ofSteps {σ φ α : Type} {encode : Encode σ φ} (setting : Option String) (f : σ → α)
    (kept : ∀ inst s, f (encode inst s).2.2 = f s) (steps : List Step) (s : σ) :
    f (ofSteps encode setting steps s).2 = f s := by
  induction steps generalizing s with
  | nil => rfl
  | cons step rest ih =>
    have next : f (step.perform encode setting s).2.2 = f s := by
      rcases step.state_perform encode setting s with same | ⟨inst, same⟩
      · rw [same]
      · rw [same, kept]
    rw [ofSteps]
    split
    · rename_i reply
      rw [reply] at next
      exact next
    · rename_i reply
      rw [reply] at next
      exact (ih _).trans next

end Batch

end AsmFixtures
