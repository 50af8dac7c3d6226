import AsmFixtures.Proofs.Batch.Step
import Mathlib.Algebra.Ring.Nat

/-! Accounts of whole runs. When every form has its opcodes, the encoder never gives up and
the log setting can be read, no step stops the run, and each form is accounted for in turn:
a form with a class that gives nothing leaves one skip, which names those classes; any other
leaves one record for every parameter set with every combination of one draw. -/

namespace AsmFixtures.Batch

open OperandClass

variable {σ φ : Type} {encode : Encode σ φ} {setting : Option String}

/-- What the forms of a run leave, one after the other, with the sampler and the state of
the encoder that each of them finds. The combinations of a form come from a single draw, the
last operand changing fastest, and the whole list of them is tried with each parameter set;
each holds one entry of the domain for every operand. -/
inductive Accounts (encode : Encode σ φ) (setting : Option String) :
    List Form → Sampler → σ → List Outcome → σ → Prop
  | done (sampler : Sampler) (s : σ) : Accounts encode setting [] sampler s [] s
  | skipped {form : Form} {rest : List Form} {sampler : Sampler} {s last : σ}
      {outcomes : List Outcome} (empty : ∃ key ∈ form.keys, Sampler.peekCount key = 0)
      (after : Accounts encode setting rest sampler s outcomes last) :
      Accounts encode setting (form :: rest) sampler s
        (.skip ⟨form, "no arguments for " ++ Text.join ", "
          (form.keys.filter fun key => Sampler.peekCount key = 0)⟩ :: outcomes) last
  | tried {form : Form} {rest : List Form} {sampler next : Sampler} {s state last : σ}
      {windows : List (List Entry)} {here outcomes : List Outcome}
      (nonempty : ∀ key ∈ form.keys, Sampler.peekCount key ≠ 0)
      (drawn : sampler.draws form.keys = (windows, next))
      (drawable : List.Forall₂ Sampler.Drawable form.keys windows)
      (entries : ∀ args ∈ choices windows,
        List.Forall₂ (fun key e => e ∈ domain key) form.keys args)
      (records : Step.RecordsAll encode setting
        ((Variant.all form.record.encoding form.keys ×ˢ choices windows).map
          fun (params, args) => .attempt form params args) s here state)
      (after : Accounts encode setting rest next state outcomes last) :
      Accounts encode setting (form :: rest) sampler s (here ++ outcomes) last

theorem accounts_of_recordsAll {forms : List Form} {sampler : Sampler} {s last : σ}
    {outcomes : List Outcome}
    (h : Step.RecordsAll encode setting (Step.plan forms sampler) s outcomes last) :
    Accounts encode setting forms sampler s outcomes last := by
  induction forms generalizing sampler s outcomes with
  | nil =>
    cases h
    exact .done sampler _
  | cons form rest ih =>
    rw [Step.plan_cons] at h
    by_cases skipped : form.Skipped
    · rw [Step.ofForm_of_skipped skipped, List.singleton_append] at h
      cases h with
      | cons _ records after =>
        cases records
        exact .skipped skipped (ih after)
    · rw [Step.ofForm_of_not_skipped skipped, Step.attempts_eq_product] at h
      obtain ⟨here, later, state, rfl, records, after⟩ := Step.recordsAll_append h
      have nonempty : ∀ key ∈ form.keys, Sampler.peekCount key ≠ 0 :=
        fun key mem empty => skipped ⟨key, mem, empty⟩
      have drawable := Sampler.drawable_draws sampler form.keys
      have entries : ∀ args ∈ choices (sampler.draws form.keys).1,
          List.Forall₂ (fun key e => e ∈ domain key) form.keys args :=
        fun _ mem => Sampler.entries_of_drawable drawable mem
      exact .tried nonempty rfl drawable entries records (ih after)

theorem counts_of_recordsAll {form : Form} {tries : List (List Param × List Entry)}
    {s last : σ} {outcomes : List Outcome}
    (h : Step.RecordsAll encode setting
      (tries.map fun (params, args) => .attempt form params args) s outcomes last) :
    outcomes.filterMap Outcome.skip? = [] ∧
      (outcomes.filterMap Outcome.fixture?).length +
        (outcomes.filterMap Outcome.failure?).length = tries.length := by
  induction tries generalizing s outcomes with
  | nil =>
    cases h
    exact ⟨rfl, rfl⟩
  | cons first tries ih =>
    cases h with
    | cons _ records rest =>
      obtain ⟨no_skip, count⟩ := ih rest
      cases records with
      | fixture => exact ⟨no_skip, (Nat.succ_add _ _).trans (congrArg (· + 1) count)⟩
      | failure => exact ⟨no_skip, congrArg (· + 1) count⟩

def tries (f : Form) : Nat :=
  (Variant.all f.record.encoding f.keys).length * (f.keys.map Sampler.peekCount).foldr (· * ·) 1

theorem counts_of_accounts {forms : List Form} {sampler : Sampler} {s last : σ}
    {outcomes : List Outcome} (h : Accounts encode setting forms sampler s outcomes last) :
    (outcomes.filterMap Outcome.skip?).length = (forms.filter fun f => f.Skipped).length ∧
      (outcomes.filterMap Outcome.fixture?).length +
          (outcomes.filterMap Outcome.failure?).length =
        ((forms.filter fun f => ¬ f.Skipped).map tries).sum := by
  induction h with
  | done => exact ⟨rfl, rfl⟩
  | @skipped form _ _ _ _ _ empty _ ih =>
    have skipped : form.Skipped := empty
    obtain ⟨skips, rest⟩ := ih
    rw [List.filter_cons_of_pos (by simpa using skipped),
      List.filter_cons_of_neg (by simpa using skipped)]
    exact ⟨congrArg (· + 1) skips, rest⟩
  | @tried form _ _ _ _ _ _ _ _ _ nonempty _ drawable _ records _ ih =>
    have going : ¬ form.Skipped := fun ⟨key, mem, empty⟩ => nonempty key mem empty
    obtain ⟨skips, rest⟩ := ih
    obtain ⟨no_skip, count⟩ := counts_of_recordsAll records
    rw [List.length_product, Sampler.length_choices_of_drawable drawable] at count
    change _ = tries form at count
    rw [List.filter_cons_of_neg (by simpa using going),
      List.filter_cons_of_pos (by simpa using going), List.map_cons, List.sum_cons]
    simp only [List.filterMap_append, List.length_append, no_skip, List.length_nil, Nat.zero_add]
    exact ⟨skips, by omega⟩

theorem skipped_of_accounts {forms : List Form} {sampler : Sampler} {s last : σ}
    {outcomes : List Outcome} (h : Accounts encode setting forms sampler s outcomes last) :
    (outcomes.filterMap Outcome.skip?).map SkippedForm.form =
      forms.filter fun f => f.Skipped := by
  induction h with
  | done => rfl
  | @skipped form _ _ _ _ _ empty _ ih =>
    have skipped : form.Skipped := empty
    rw [List.filter_cons_of_pos (by simpa using skipped)]
    exact congrArg (form :: ·) ih
  | @tried form _ _ _ _ _ _ _ _ _ nonempty _ _ _ records _ ih =>
    have going : ¬ form.Skipped := fun ⟨key, mem, empty⟩ => nonempty key mem empty
    rw [List.filter_cons_of_neg (by simpa using going), List.filterMap_append,
      (counts_of_recordsAll records).1, List.nil_append, ih]

theorem run_accounts_for_every_form (encode : Encode σ φ) (setting : Option String)
    (forms : List Form) (sampler : Sampler) (s : σ) (named : ∀ f ∈ forms, f.record.Named)
    (answers : ∀ inst state cause, (encode inst state).1 ≠ .fatal cause)
    (valid : (Silence.parse? setting).isOk) :
    (ofForms encode setting forms sampler s).1.stop = none ∧
      Accounts encode setting forms sampler s (ofForms encode setting forms sampler s).1.outcomes
        (ofForms encode setting forms sampler s).2 ∧
      (ofForms encode setting forms sampler s).1.skips.length =
        (forms.filter fun f => f.Skipped).length ∧
      (ofForms encode setting forms sampler s).1.fixtures.length +
          (ofForms encode setting forms sampler s).1.failures.length =
        ((forms.filter fun f => ¬ f.Skipped).map tries).sum := by
  rw [ofForms_eq_ofSteps_plan]
  have sound : ∀ step ∈ Step.plan forms sampler, step.Sound :=
    fun step mem => Step.sound_of_named named mem
  rcases ofSteps_cases encode setting sound s with
    ⟨going, all⟩ | ⟨before, step, after, state, stop, split, _, raises, _⟩
  · have accounts := accounts_of_recordsAll all
    exact ⟨going, accounts, counts_of_accounts accounts⟩
  · have mem : step ∈ Step.plan forms sampler := by simp [split]
    obtain ⟨form, params, args, cause, _, fatal, _⟩ :=
      Step.fatal_of_raises (Step.named_of_mem_plan named mem) valid raises
    exact absurd fatal (answers _ _ _)

/-- A broadcast form is skipped, and a mask form tried four times by an encoder that refuses
every other instruction. -/
theorem run_accounts_for_skip_and_attempts :
    let broadcast : Record := { intel := "VADDPS xmm1, m32bcst", go := "VADDPS M, X1" }
    let mask : Record :=
      { intel := "KNOTQ k1, k2", go := "KNOTQ K2, K1", encoding := "VEX.L0.0F.W1 44 /r" }
    let forms := broadcast.forms ++ mask.forms
    let setting := some "1"
    let encode : Encode Nat Unit := fun _ count =>
      (if count % 2 = 0 then .encoded "90" else .refused ⟨.requestConversion, none⟩, "",
        count + 1)
    (∀ f ∈ forms, f.record.Named) ∧
      (∀ inst state cause, (encode inst state).1 ≠ .fatal cause) ∧
      (Silence.parse? setting).isOk ∧
      (ofForms encode setting forms { rotate := true } 0).1.stop = none ∧
      Accounts encode setting forms { rotate := true } 0
        (ofForms encode setting forms { rotate := true } 0).1.outcomes
        (ofForms encode setting forms { rotate := true } 0).2 ∧
      (ofForms encode setting forms { rotate := true } 0).1.skips.length = 1 ∧
      (ofForms encode setting forms { rotate := true } 0).1.fixtures.length +
        (ofForms encode setting forms { rotate := true } 0).1.failures.length = 4 := by
  intro broadcast mask forms setting encode
  have named : ∀ f ∈ forms, f.record.Named := by
    intro f mem
    rcases List.mem_append.mp mem with here | here
    all_goals rw [Form.record_of_mem_forms here]
    all_goals exact ⟨by decide +kernel, by decide +kernel⟩
  have answers : ∀ inst state cause, (encode inst state).1 ≠ .fatal cause := by
    intro inst state cause
    change (if state % 2 = 0 then _ else _ : Verdict Unit) ≠ _
    split <;> simp
  have valid : (Silence.parse? setting).isOk := by decide +kernel
  obtain ⟨going, accounts, skips, tried⟩ :=
    run_accounts_for_every_form encode setting forms { rotate := true } 0 named answers valid
  exact ⟨named, answers, valid, going, accounts, skips.trans (by decide +kernel),
    tried.trans (by decide +kernel)⟩

end AsmFixtures.Batch
