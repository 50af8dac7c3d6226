import AsmFixtures.Batch
import AsmFixtures.Proofs.Database.Forms
import AsmFixtures.Proofs.OperandClass.Sampler
import AsmFixtures.Proofs.Text.Blank
import Mathlib.Data.List.ProdSigma

/-! A run as one list of steps. What is tried never depends on an answer of the encoder:
the sampler alone plans all steps of all forms, and the run performs them in order up to
the first that stops it. Every statement about runs is one about planned steps and one
about performing a step. -/

namespace AsmFixtures

open OperandClass

structure Record.Named (r : Record) : Prop where
  intel : ¬ Text.AllBlank r.intel
  go : ¬ Text.AllBlank r.go

theorem Record.exists_opcodes {r : Record} (h : r.Named) :
    ∃ opcode goOpcode, r.intelOpcode? = some opcode ∧ r.goOpcode? = some goOpcode := by
  obtain ⟨opcode, intel⟩ := Option.ne_none_iff_exists'.mp
    (mt (Text.firstWord?_eq_none_iff r.intel).mp h.intel)
  obtain ⟨goOpcode, go⟩ := Option.ne_none_iff_exists'.mp
    (mt (Text.firstWord?_eq_none_iff r.go).mp h.go)
  exact ⟨opcode, goOpcode, intel, go⟩

namespace Form

def Skipped (f : Form) : Prop := ∃ key ∈ f.keys, Sampler.peekCount key = 0

instance (f : Form) : Decidable f.Skipped :=
  decidable_of_iff (f.keys.any (fun key => Sampler.peekCount key = 0) = true)
    (by simp [Skipped])

theorem keys_eq_nil_of_blank {f : Form} (produced : f ∈ f.record.forms)
    (blank : Text.AllBlank f.record.intel) : f.keys = [] := by
  have no_slots : f.record.slots = [] := by
    simp [Record.slots, Record.intelArgs, Text.afterFirstWord?_of_allBlank blank]
  obtain ⟨args, mem, made⟩ := List.mem_map.mp produced
  have no_args : args = [] := by simpa [no_slots, choices] using mem
  rw [keys, ← made, no_args, List.map_nil]

end Form

namespace Step

theorem ofForm_of_skipped {form : Form} (h : form.Skipped) (sampler : Sampler) :
    ofForm form sampler =
      ([.skip form (form.keys.filter fun key => Sampler.peekCount key = 0)], sampler) := by
  obtain ⟨key, mem, empty⟩ := h
  have found : key ∈ form.keys.filter fun key => Sampler.peekCount key = 0 :=
    List.mem_filter.mpr ⟨mem, by simpa using empty⟩
  rw [ofForm, if_neg (by simpa using List.ne_nil_of_mem found)]

theorem ofForm_of_not_skipped {form : Form} (h : ¬ form.Skipped) (sampler : Sampler) :
    ofForm form sampler =
      (attempts form form.keys (choices (sampler.draws form.keys).1),
        (sampler.draws form.keys).2) := by
  have none_empty : form.keys.filter (fun key => Sampler.peekCount key = 0) = [] := by
    simpa [Form.Skipped] using h
  rw [ofForm, if_pos (by simp [none_empty]), Sampler.combinations_eq_choices]

/-- Every parameter set with every combination, the combinations faster. -/
theorem attempts_eq_product (form : Form) (keys : List String)
    (combinations : List (List Entry)) :
    attempts form keys combinations =
      (Variant.all form.record.encoding keys ×ˢ combinations).map fun (params, args) =>
        .attempt form params args := by
  simp [attempts, SProd.sprod, List.product, List.map_flatMap, Function.comp_def]

def byForm : List Form → Sampler → List (Form × List Step)
  | [], _ => []
  | form :: rest, sampler => (form, (ofForm form sampler).1) :: byForm rest (ofForm form sampler).2

def plan (forms : List Form) (sampler : Sampler) : List Step :=
  (byForm forms sampler).flatMap Prod.snd

theorem plan_cons (form : Form) (rest : List Form) (sampler : Sampler) :
    plan (form :: rest) sampler =
      (ofForm form sampler).1 ++ plan rest (ofForm form sampler).2 := rfl

def samplerAfter : List Form → Sampler → Sampler
  | [], sampler => sampler
  | form :: rest, sampler => samplerAfter rest (ofForm form sampler).2

theorem byForm_append (earlier later : List Form) (sampler : Sampler) :
    byForm (earlier ++ later) sampler =
      byForm earlier sampler ++ byForm later (samplerAfter earlier sampler) := by
  induction earlier generalizing sampler with
  | nil => rfl
  | cons form rest ih => rw [List.cons_append, byForm, ih, byForm, List.cons_append, samplerAfter]

theorem length_byForm (forms : List Form) (sampler : Sampler) :
    (byForm forms sampler).length = forms.length := by
  induction forms generalizing sampler with
  | nil => rfl
  | cons form rest ih => rw [byForm, List.length_cons, List.length_cons, ih]

theorem getElem?_byForm_length (earlier later : List Form) (form : Form) (sampler : Sampler) :
    (byForm (earlier ++ form :: later) sampler)[earlier.length]? =
      some (form, (ofForm form (samplerAfter earlier sampler)).1) := by
  rw [byForm_append, List.getElem?_append_right (length_byForm earlier _).le, length_byForm,
    Nat.sub_self, byForm, List.getElem?_cons_zero]

/-- A planned attempt belongs to a form of the run that is not skipped, and takes one entry
of the domain for each of its operands. -/
structure Attempted (forms : List Form) (form : Form) (args : List Entry) : Prop where
  mem : form ∈ forms
  nonempty : ¬ form.Skipped
  entries : List.Forall₂ (fun key e => e ∈ domain key) form.keys args

theorem exists_form_of_mem_plan {forms : List Form} {sampler : Sampler} {step : Step}
    (mem : step ∈ plan forms sampler) :
    ∃ form ∈ forms, ∃ before, step ∈ (ofForm form before).1 := by
  induction forms generalizing sampler with
  | nil => cases mem
  | cons form rest ih =>
    rcases List.mem_append.mp mem with here | later
    · exact ⟨form, List.mem_cons_self, sampler, here⟩
    · obtain ⟨other, inRest, before, here⟩ := ih later
      exact ⟨other, List.mem_cons_of_mem _ inRest, before, here⟩

theorem of_attempt_mem_ofForm {owner form : Form} {sampler : Sampler} {params : List Param}
    {args : List Entry} (mem : .attempt form params args ∈ (ofForm owner sampler).1) :
    owner = form ∧ ¬ form.Skipped ∧ params ∈ Variant.all form.record.encoding form.keys ∧
      args ∈ choices (sampler.draws form.keys).1 := by
  by_cases skipped : owner.Skipped
  · rw [ofForm_of_skipped skipped] at mem
    cases List.mem_singleton.mp mem
  · rw [ofForm_of_not_skipped skipped, attempts_eq_product] at mem
    obtain ⟨⟨_, _⟩, tried, same⟩ := List.mem_map.mp mem
    cases same
    exact ⟨rfl, skipped, List.mem_product.mp tried⟩

theorem attempted_of_mem_plan {forms : List Form} {sampler : Sampler} {form : Form}
    {params : List Param} {args : List Entry}
    (h : .attempt form params args ∈ plan forms sampler) : Attempted forms form args := by
  obtain ⟨owner, mem, before, here⟩ := exists_form_of_mem_plan h
  obtain ⟨rfl, nonempty, _, drawn⟩ := of_attempt_mem_ofForm here
  exact ⟨mem, nonempty,
    Sampler.entries_of_drawable (Sampler.drawable_draws before owner.keys) drawn⟩

theorem variant_of_mem_plan {forms : List Form} {sampler : Sampler} {form : Form}
    {params : List Param} {args : List Entry}
    (h : .attempt form params args ∈ plan forms sampler) :
    params ∈ Variant.all form.record.encoding form.keys := by
  obtain ⟨_, _, _, here⟩ := exists_form_of_mem_plan h
  exact (of_attempt_mem_ofForm here).2.2.1

end Step

namespace Batch

variable {σ φ : Type} (encode : Encode σ φ) (setting : Option String)

@[simp] theorem append_empty (b : Batch φ) : b.append {} = b := by
  simp [append]

@[simp] theorem empty_append (b : Batch φ) : append {} b = b := by
  simp [append]

theorem ofSteps_append (first second : List Step) (s : σ) :
    ofSteps encode setting (first ++ second) s =
      if (ofSteps encode setting first s).1.stop.isSome then ofSteps encode setting first s
      else
        ((ofSteps encode setting first s).1.append
            (ofSteps encode setting second (ofSteps encode setting first s).2).1,
          (ofSteps encode setting second (ofSteps encode setting first s).2).2) := by
  induction first generalizing s with
  | nil => simp [ofSteps]
  | cons step rest ih =>
    rw [List.cons_append, ofSteps, ofSteps]
    rcases step.perform encode setting s with ⟨_ | outcome, printed, next⟩
    · rfl
    · dsimp only
      rw [ih]
      split <;> simp_all [append]

theorem ofForms_eq_ofSteps_plan (forms : List Form) (sampler : Sampler) (s : σ) :
    ofForms encode setting forms sampler s =
      ofSteps encode setting (Step.plan forms sampler) s := by
  unfold ofForms
  induction forms generalizing sampler s with
  | nil => rfl
  | cons form rest ih =>
    rw [Step.plan_cons, ofSteps_append, contributions, ofForm]
    dsimp only
    split
    · simp [sum]
    · rename_i going
      rw [← ih]
      simp [sum]

end Batch

end AsmFixtures
