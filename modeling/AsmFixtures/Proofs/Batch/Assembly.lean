import AsmFixtures.Proofs.Batch.Rotation
import AsmFixtures.Proofs.OperandClass.Windows
import Mathlib.Algebra.BigOperators.Group.List.Basic

/-! The assembler texts of a form. A text tells the entries that were drawn for the operands, and
so what the encoder is asked, up to the parameter set. Without rotation no draw gives an entry
twice, and each text of a form is tried once with each of its parameter sets. -/

namespace AsmFixtures

open OperandClass

theorem Sampler.combination_of_line {a b : Sampler} {keys : List String} {opcode : String}
    {args others : List Entry} (mem : args ∈ (a.combinations keys).1)
    (mem' : others ∈ (b.combinations keys).1)
    (same : GoSyntax.line opcode (args.map (·.goSyntax)) =
      GoSyntax.line opcode (others.map (·.goSyntax))) : args = others := by
  rw [combinations_eq_choices] at mem mem'
  exact entries_of_line (entries_of_drawable (drawable_draws a keys) mem)
    (entries_of_drawable (drawable_draws b keys) mem') same

theorem Sampler.nodup_draws_of_not_rotate {s : Sampler} (h : s.rotate = false)
    (keys : List String) : ∀ window ∈ (s.draws keys).1, window.Nodup := by
  rw [draws_of_not_rotate h]
  intro window mem
  obtain ⟨key, _, rfl⟩ := List.mem_map.mp mem
  rw [take_eq_nthWindow, nodup_nthWindow_iff]
  simp [Doubled]

namespace Step

def text? : Step → Option String
  | skip _ _ => none
  | attempt form _ args => some (form.assembly args)

theorem texts_attempts (form : Form) (keys : List String) (combinations : List (List Entry)) :
    (attempts form keys combinations).filterMap text? =
      (Variant.all form.record.encoding keys).flatMap fun _ => combinations.map form.assembly := by
  simp [attempts, List.filterMap_flatMap, List.filterMap_map, Function.comp_def, text?]

theorem count_text_attempts {form : Form} {sampler : Sampler} (rests : sampler.rotate = false)
    (going : ¬ form.Skipped) {text : String}
    (mem : text ∈ (attempts form form.keys
      (choices (sampler.draws form.keys).1)).filterMap text?) :
    ((attempts form form.keys (choices (sampler.draws form.keys).1)).filterMap text?).count text =
      (Variant.all form.record.encoding form.keys).length := by
  have drawable := Sampler.drawable_draws sampler form.keys
  have filled := Sampler.not_mem_nil_of_drawable drawable
    fun key mem empty => going ⟨key, mem, empty⟩
  have different : (choices (sampler.draws form.keys).1).Nodup :=
    (nodup_choices filled).mpr (Sampler.nodup_draws_of_not_rotate rests form.keys)
  have texts : ((choices (sampler.draws form.keys).1).map form.assembly).Nodup :=
    different.map_on fun _ ha _ hb same =>
      entries_of_line (Sampler.entries_of_drawable drawable ha)
        (Sampler.entries_of_drawable drawable hb) same
  rw [texts_attempts] at mem ⊢
  obtain ⟨_, _, inside⟩ := List.mem_flatMap.mp mem
  rw [List.count_flatMap]
  simp [Function.comp_def, List.count_eq_one_of_mem texts inside]

theorem entries_of_mem_ofForm {form : Form} {sampler : Sampler} {params : List Param}
    {args : List Entry} (mem : .attempt form params args ∈ (ofForm form sampler).1) :
    List.Forall₂ (fun key e => e ∈ domain key) form.keys args := by
  have planned : .attempt form params args ∈ plan [form] sampler := by
    rw [plan_cons]
    exact List.mem_append_left _ mem
  exact (attempted_of_mem_plan planned).entries

/-- What the texts of a form tell, in either mode. -/
structure TextLaw (rotate : Bool) (form : Form) (steps : List Step) : Prop where
  instruction : ∀ params args params' others, .attempt form params args ∈ steps →
    .attempt form params' others ∈ steps → form.assembly args = form.assembly others →
    form.instruction params' others =
      { form.instruction params args with params := (form.instruction params' others).params }
  count : rotate = false → ∀ text ∈ steps.filterMap text?,
    (steps.filterMap text?).count text = (Variant.all form.record.encoding form.keys).length

theorem instruction_of_text {form : Form} {sampler : Sampler} {params params' : List Param}
    {args others : List Entry} (mem : .attempt form params args ∈ (ofForm form sampler).1)
    (mem' : .attempt form params' others ∈ (ofForm form sampler).1)
    (same : form.assembly args = form.assembly others) :
    form.instruction params' others =
      { form.instruction params args with params := (form.instruction params' others).params } := by
  rw [entries_of_line (entries_of_mem_ofForm mem) (entries_of_mem_ofForm mem') same]
  rfl

theorem textLaw (earlier : List Form) (form : Form) (sampler : Sampler) :
    TextLaw sampler.rotate form (ofForm form (samplerAfter earlier sampler)).1 where
  instruction _ _ _ _ mem mem' same := instruction_of_text mem mem' same
  count rests text mem := by
    rw [samplerAfter_of_not_rotate rests] at mem ⊢
    by_cases skipped : form.Skipped
    · rw [ofForm_of_skipped skipped] at mem
      simp [text?] at mem
    · rw [ofForm_of_not_skipped skipped] at mem ⊢
      exact count_text_attempts rests skipped mem

/-- A text stands for one choice of arguments, in all draws for a form and in all its attempts. -/
theorem text_determines_arguments :
    (∀ (form : Form) (opcode : String) (a b : Sampler),
      ∀ args ∈ (a.combinations form.keys).1, ∀ others ∈ (b.combinations form.keys).1,
        GoSyntax.line opcode (args.map (·.goSyntax)) =
            GoSyntax.line opcode (others.map (·.goSyntax)) →
          args.map (·.argument) = others.map (·.argument)) ∧
    (∀ {σ φ : Type} (encode : Encode σ φ) (setting : Option String) (forms : List Form)
      (sampler : Sampler) (s : σ),
      Batch.ofForms encode setting forms sampler s =
        Batch.ofSteps encode setting ((byForm forms sampler).flatMap Prod.snd) s) ∧
    ∀ (earlier later : List Form) (form : Form) (sampler : Sampler),
      ∃ steps, (byForm (earlier ++ form :: later) sampler)[earlier.length]? =
        some (form, steps) ∧ TextLaw sampler.rotate form steps := by
  refine ⟨fun form opcode a b args mem others mem' same => ?_, ?_, ?_⟩
  · rw [Sampler.combination_of_line mem mem' same]
  · intro σ φ encode setting forms sampler s
    exact Batch.ofForms_eq_ofSteps_plan encode setting forms sampler s
  · intro earlier later form sampler
    exact ⟨_, getElem?_byForm_length earlier later form sampler, textLaw earlier form sampler⟩

/-- Class `xmm` has register 30 at places one and five of its domain, and the form ignores a bit,
so it has two parameter sets. -/
theorem text_determines_arguments_of_repeated_register :
    let form : Form :=
      ⟨{ intel := "VPMOVM2B xmm1, k2", go := "VPMOVM2B K2, X1", encoding := "EVEX.128.WIG 28 /r" },
        ["xmm1", "k2"]⟩
    let early : Sampler := { rotate := true, cursors := [("xmm", 1)] }
    let late : Sampler := { rotate := true, cursors := [("xmm", 5)] }
    (∃ args ∈ (early.combinations form.keys).1, ∃ others ∈ (late.combinations form.keys).1,
      GoSyntax.line "VPMOVM2B" (args.map (·.goSyntax)) = "VPMOVM2B K0, X30" ∧
      GoSyntax.line "VPMOVM2B" (others.map (·.goSyntax)) = "VPMOVM2B K0, X30" ∧
      args.map (·.argument) = others.map (·.argument)) ∧
    ∃ steps, (byForm [form] {})[0]? = some (form, steps) ∧
      "VPMOVM2B K7, X22" ∈ steps.filterMap text? ∧
      (steps.filterMap text?).count "VPMOVM2B K7, X22" = 2 := by
  intro form early late
  obtain ⟨draws, _, runs⟩ := text_determines_arguments
  have first : "VPMOVM2B K0, X30" ∈ (early.combinations form.keys).1.map
      fun args => GoSyntax.line "VPMOVM2B" (args.map (·.goSyntax)) := by decide +kernel
  have second : "VPMOVM2B K0, X30" ∈ (late.combinations form.keys).1.map
      fun args => GoSyntax.line "VPMOVM2B" (args.map (·.goSyntax)) := by decide +kernel
  obtain ⟨args, mem, text⟩ := List.mem_map.mp first
  obtain ⟨others, mem', text'⟩ := List.mem_map.mp second
  have equal := draws form "VPMOVM2B" early late args mem others mem' (text.trans text'.symm)
  obtain ⟨steps, planned, law⟩ := runs [] [] form {}
  have own : (form, steps) = (form, (ofForm form {}).1) := (Option.some.inj planned).symm
  have tried : "VPMOVM2B K7, X22" ∈ steps.filterMap text? := by
    rw [(Prod.mk.inj own).2]
    decide +kernel
  have sets : (Variant.all form.record.encoding form.keys).length = 2 := by decide +kernel
  exact ⟨⟨args, mem, others, mem', text, text', equal⟩, steps, planned, tried,
    (law.count rfl _ tried).trans sets⟩

end Step

end AsmFixtures
