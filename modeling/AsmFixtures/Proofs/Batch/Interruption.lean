import AsmFixtures.Proofs.Batch.Step

/-! Runs that are interrupted. A step stops a run for one of the reasons of its rule only,
and the first step that does ends the run. What the run then holds is what the steps before
that one recorded, in their order; the interrupting step and the steps behind it leave
nothing. Nothing is assumed of the encoder, the sampler or the log setting. -/

namespace AsmFixtures.Batch

theorem sound_of_produced {forms : List Form} (produced : ∀ f ∈ forms, f ∈ f.record.forms)
    {sampler : Sampler} {step : Step} (mem : step ∈ Step.plan forms sampler) : step.Sound :=
  Step.sound_of_mem_plan (fun f hf => Form.keys_eq_nil_of_blank (produced f hf)) mem

theorem run_holds_records_before_first_stop {σ φ : Type} (encode : Encode σ φ)
    (setting : Option String) (forms : List Form) (sampler : Sampler) (s : σ)
    (produced : ∀ f ∈ forms, f ∈ f.record.forms) :
    let steps := Step.plan forms sampler
    let run := ofForms encode setting forms sampler s
    (∀ step ∈ steps, ∀ state stop, (step.perform encode setting state).1 = .error stop ↔
      step.Raises encode setting state stop) ∧
    ((run.1.stop = none ∧ Step.RecordsAll encode setting steps s run.1.outcomes run.2) ∨
      ∃ before step after state stop, steps = before ++ step :: after ∧
        Step.RecordsAll encode setting before s run.1.outcomes state ∧
        step.Raises encode setting state stop ∧ run.1.stop = some stop) := by
  intro steps run
  have sound : ∀ step ∈ steps, step.Sound := fun step mem => sound_of_produced produced mem
  refine ⟨fun step mem state stop => Step.perform_eq_error_iff (sound step mem), ?_⟩
  have performed : run = ofSteps encode setting steps s :=
    ofForms_eq_ofSteps_plan encode setting forms sampler s
  rw [performed]
  exact ofSteps_cases encode setting sound s

/-- The last of three forms has no Go opcode: it stops the run at its first attempt, behind
one skip and four combinations, half of which the encoder refuses. -/
theorem run_holds_records_before_blank_syntax :
    let broadcast : Record := { intel := "VADDPS xmm1, m32bcst", go := "VADDPS M, X1" }
    let mask : Record :=
      { intel := "KNOTQ k1, k2", go := "KNOTQ K2, K1", encoding := "VEX.L0.0F.W1 44 /r" }
    let forms := broadcast.forms ++ mask.forms ++ Record.forms { mask with go := " " }
    let encode : Encode Nat Unit := fun _ count =>
      (if count % 2 = 0 then .encoded "90" else .refused ⟨.requestConversion, none⟩, "",
        count + 1)
    (∀ f ∈ forms, f ∈ f.record.forms) ∧
      (ofForms encode none forms { rotate := true } 0).1.outcomes.length = 5 ∧
      ∃ before step after state stop,
        Step.plan forms { rotate := true } = before ++ step :: after ∧
        Step.RecordsAll encode none before 0
          (ofForms encode none forms { rotate := true } 0).1.outcomes state ∧
        step.Raises encode none state stop ∧
        (ofForms encode none forms { rotate := true } 0).1.stop = some stop := by
  intro broadcast mask forms encode
  have produced : ∀ f ∈ forms, f ∈ f.record.forms := by
    intro f mem
    simp only [forms, List.mem_append] at mem
    rcases mem with (here | here) | here
    all_goals rw [Form.record_of_mem_forms here]
    all_goals exact here
  have stops : (ofForms encode none forms { rotate := true } 0).1.stop.isSome = true := by
    decide +kernel
  refine ⟨produced, by decide +kernel, ?_⟩
  obtain ⟨_, ending⟩ :=
    run_holds_records_before_first_stop encode none forms { rotate := true } 0 produced
  rcases ending with ⟨going, _⟩ | stopped
  · rw [going] at stops
    cases stops
  · exact stopped

end AsmFixtures.Batch
