import AsmFixtures.Proofs.Batch.Step

/-! What a run hands to its encoder. In place of any encoder there can be one that also keeps the
instructions it gets. Nothing else in a run changes by that, and what is kept are the instructions
of the attempts that the steps came to, in their order. An attempt of a form without both opcodes
does not get as far as the encoder; one that stops the run is the last. -/

namespace AsmFixtures

open OperandClass

structure Attempt where
  form : Form
  params : List Param
  args : List Entry

namespace Attempt

def instruction (a : Attempt) : Instruction := a.form.instruction a.params a.args

def text (a : Attempt) : String := a.form.assembly a.args

end Attempt

instance (r : Record) : Decidable r.Named :=
  decidable_of_iff (¬ Text.AllBlank r.intel ∧ ¬ Text.AllBlank r.go)
    ⟨fun h => ⟨h.1, h.2⟩, fun h => ⟨h.intel, h.go⟩⟩

def Outcome.text? : Outcome → Option String
  | fixture f => some f.asm
  | failure f => some f.asm
  | skip _ => none

variable {σ φ : Type}

/-- An encoder that keeps the instructions it gets, the latest at the end. -/
def recording (encode : Encode σ φ) : Encode (σ × List Instruction) φ := fun inst s =>
  let (verdict, printed, next) := encode inst s.1
  (verdict, printed, next, s.2 ++ [inst])

namespace Step

variable {encode : Encode σ φ} {setting : Option String}

def attempt? : Step → Option Attempt
  | skip _ _ => none
  | attempt form params args =>
    if form.record.Named then some ⟨form, params, args⟩ else none

theorem perform_attempt_of_not_named {form : Form} (h : ¬ form.record.Named)
    (params : List Param) (args : List Entry) (encode : Encode σ φ) (s : σ) :
    (attempt form params args).perform encode setting s = (.error .blankSyntax, "", s) := by
  have blank : Text.AllBlank form.record.go ∨ Text.AllBlank form.record.intel := by
    by_contra neither
    obtain ⟨go, intel⟩ := not_or.mp neither
    exact h ⟨intel, go⟩
  rw [perform, performAttempt_of_blank params args s blank]

theorem perform_recording (step : Step) (encode : Encode σ φ) (setting : Option String) (s : σ)
    (kept : List Instruction) :
    step.perform (recording encode) setting (s, kept) =
      ((step.perform encode setting s).1, (step.perform encode setting s).2.1,
        (step.perform encode setting s).2.2,
        kept ++ (step.attempt?.map Attempt.instruction).toList) := by
  cases step with
  | skip form emptyKeys =>
    rw [attempt?, Option.map_none, Option.toList_none, List.append_nil]
    unfold perform performSkip
    dsimp only
    split
    · rfl
    · split <;> rfl
  | attempt form params args =>
    by_cases named : form.record.Named
    · rw [attempt?, if_pos named, perform, perform, performAttempt_of_named named,
        performAttempt_of_named named, recording]
      rcases encode (form.instruction params args) s with ⟨verdict, printed, next⟩
      cases verdict <;> rfl
    · rw [attempt?, if_neg named, perform_attempt_of_not_named named,
        perform_attempt_of_not_named named, Option.map_none, Option.toList_none, List.append_nil]

theorem eq_failure_of_recordFailure {failed : FailedCombination} {outcome : Outcome}
    (h : (recordFailure setting failed : Except (Stop φ) Outcome × String).1 = .ok outcome) :
    outcome = .failure failed := by
  unfold recordFailure at h
  split at h
  · cases h
  · exact (Except.ok.inj h).symm

theorem eq_skip_of_performSkip {form : Form} {emptyKeys : List String} {s : σ} {outcome : Outcome}
    (h : (performSkip setting form emptyKeys s : Result σ φ).1 = .ok outcome) :
    outcome = .skip ⟨form, skipReason emptyKeys⟩ := by
  unfold performSkip at h
  dsimp only at h
  split at h
  · cases h
  · split at h
    · cases h
    · exact (Except.ok.inj h).symm

theorem text?_of_perform_eq_ok {step : Step} {s : σ} {outcome : Outcome}
    (h : (step.perform encode setting s).1 = .ok outcome) :
    outcome.text? = step.attempt?.map Attempt.text := by
  cases step with
  | skip form emptyKeys =>
    rw [eq_skip_of_performSkip h]
    rfl
  | attempt form params args =>
    by_cases named : form.record.Named
    · rw [perform, performAttempt_of_named named] at h
      rw [attempt?, if_pos named]
      rcases reply : encode (form.instruction params args) s with ⟨verdict, printed, next⟩
      rw [reply] at h
      cases verdict with
      | encoded hex =>
        cases h
        rfl
      | refused error =>
        rw [eq_failure_of_recordFailure h]
        rfl
      | fatal cause => cases h
    · rw [perform_attempt_of_not_named named] at h
      cases h

end Step

namespace Batch

variable (encode : Encode σ φ) (setting : Option String)

def attempts : List Step → σ → List Attempt
  | [], _ => []
  | step :: rest, s =>
    step.attempt?.toList ++
      match step.perform encode setting s with
      | (.error _, _, _) => []
      | (.ok _, _, next) => attempts rest next

theorem ofSteps_recording (steps : List Step) (s : σ) (kept : List Instruction) :
    ofSteps (recording encode) setting steps (s, kept) =
      ((ofSteps encode setting steps s).1, (ofSteps encode setting steps s).2,
        kept ++ (attempts encode setting steps s).map Attempt.instruction) := by
  induction steps generalizing s kept with
  | nil => simp [ofSteps, attempts]
  | cons step rest ih =>
    have here := step.perform_recording encode setting s kept
    rcases reply : step.perform encode setting s with ⟨result, printed, next⟩
    rw [reply] at here
    cases result with
    | error stop => simp [ofSteps, attempts, here, reply, Option.toList_map]
    | ok outcome => simp [ofSteps, attempts, here, reply, ih, Option.toList_map]

variable {encode setting}

theorem mem_steps_of_mem_attempts {steps : List Step} {s : σ} {a : Attempt}
    (mem : a ∈ attempts encode setting steps s) :
    .attempt a.form a.params a.args ∈ steps ∧ a.form.record.Named := by
  induction steps generalizing s with
  | nil => cases mem
  | cons step rest ih =>
    rw [attempts] at mem
    rcases List.mem_append.mp mem with here | later
    · rw [Option.mem_toList] at here
      cases step with
      | skip form emptyKeys => cases here
      | attempt form params args =>
        by_cases named : form.record.Named
        · rw [Step.attempt?, if_pos named] at here
          cases here
          exact ⟨List.mem_cons_self, named⟩
        · rw [Step.attempt?, if_neg named] at here
          cases here
    · split at later
      · cases later
      · obtain ⟨inRest, named⟩ := ih later
        exact ⟨List.mem_cons_of_mem _ inRest, named⟩

/-- The outcomes show the texts of the attempts in their order. Only an attempt that stops the run
leaves no outcome. -/
theorem exists_map_text_attempts (encode : Encode σ φ) (setting : Option String)
    (steps : List Step) (s : σ) :
    ∃ last : List String, (attempts encode setting steps s).map Attempt.text =
        (ofSteps encode setting steps s).1.outcomes.filterMap Outcome.text? ++ last ∧
      last.length ≤ 1 ∧ ((ofSteps encode setting steps s).1.stop = none → last = []) := by
  induction steps generalizing s with
  | nil => exact ⟨[], rfl, Nat.zero_le 1, fun _ => rfl⟩
  | cons step rest ih =>
    rcases reply : step.perform encode setting s with ⟨result, printed, next⟩
    cases result with
    | error stop =>
      refine ⟨step.attempt?.toList.map Attempt.text, ?_, ?_, ?_⟩
      · simp [attempts, ofSteps, reply]
      · cases step.attempt? <;> simp
      · simp [ofSteps, reply]
    | ok outcome =>
      obtain ⟨last, texts, short, going⟩ := ih next
      have own : outcome.text? = step.attempt?.map Attempt.text :=
        Step.text?_of_perform_eq_ok (congrArg Prod.fst reply)
      refine ⟨last, ?_, short, by simpa [ofSteps, reply] using going⟩
      cases came : step.attempt? <;> simp [attempts, ofSteps, reply, own, came, texts]

end Batch

end AsmFixtures
