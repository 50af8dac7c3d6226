import AsmFixtures.Proofs.Batch.Rotation
import AsmFixtures.Proofs.OperandClass.Windows
import AsmFixtures.Proofs.Variant

/-! Test cases that repeat. Two attempts are the same case when their parameter sets have the
same members and their assembler lines are the same text. A line tells the entries that it was
made of, and no two parameter sets of a form are the same; so a form repeats a case just when
one of its windows holds an entry twice. Without rotation none does. Under rotation two
windows of class `zmm` in each turn do, and which form meets them depends on how many operands
of that class the forms before it had. -/

namespace AsmFixtures

open OperandClass

namespace Step

def SameCase : Step → Step → Prop
  | attempt form params args, attempt other params' args' =>
    (∀ p, p ∈ params ↔ p ∈ params') ∧ form.assembly args = other.assembly args'
  | _, _ => False

theorem pairwise_attempts {form : Form} {combinations : List (List Entry)}
    (taken : ∀ args ∈ combinations, List.Forall₂ (fun key e => e ∈ domain key) form.keys args) :
    (attempts form form.keys combinations).Pairwise (fun a b => ¬ a.SameCase b) ↔
      combinations.Nodup := by
  rw [attempts, List.pairwise_flatMap]
  constructor
  · rintro ⟨within, _⟩
    obtain ⟨params, mem⟩ := List.exists_mem_of_ne_nil _
      (Variant.all_ne_nil form.record.encoding form.keys)
    have different := List.pairwise_map.mp (within params mem)
    refine different.imp fun distinct same => distinct ?_
    exact ⟨fun _ => Iff.rfl, congrArg form.assembly same⟩
  · intro different
    constructor
    · intro params _
      rw [List.pairwise_map]
      refine different.imp_of_mem fun ha hb distinct same => distinct ?_
      exact entries_of_line (taken _ ha) (taken _ hb) same.2
    · refine (Variant.pairwise_all form.record.encoding form.keys).imp ?_
      intro params params' distinct a ha b hb same
      obtain ⟨_, _, rfl⟩ := List.mem_map.mp ha
      obtain ⟨_, _, rfl⟩ := List.mem_map.mp hb
      exact distinct same.1

def MeetsDoubled (rotate : Bool) (earlier : List Form) (form : Form) : Prop :=
  rotate = true ∧ ¬ form.Skipped ∧ ∃ j key, form.keys[j]? = some key ∧
    Sampler.Doubled key (windowNumber earlier form j key)

theorem getElem?_draws (rotate : Bool) (earlier : List Form) {form : Form} {j : Nat}
    {key : String} (at_j : form.keys[j]? = some key) :
    ((samplerAfter earlier { rotate := rotate }).draws form.keys).1[j]? =
      some (Sampler.nthWindow key (if rotate then windowNumber earlier form j key else 0)) := by
  cases rotate with
  | false =>
    rw [samplerAfter_of_not_rotate rfl, Sampler.draws_of_not_rotate rfl]
    simp [at_j, Sampler.take_eq_nthWindow]
  | true =>
    have here := samplerAfter_of_drawn Sampler.drawn_start earlier
    rw [(Sampler.draws_of_drawn here form.keys).1, Sampler.getElem?_windowsAfter at_j]
    simp [windowNumber]

theorem nodup_drawn_iff (rotate : Bool) (earlier : List Form) {form : Form} {j : Nat}
    {key : String} (at_j : form.keys[j]? = some key) :
    ∃ w, ((samplerAfter earlier { rotate := rotate }).draws form.keys).1[j]? = some w ∧
      (w.Nodup ↔ ¬ (rotate = true ∧ Sampler.Doubled key (windowNumber earlier form j key))) := by
  refine ⟨_, getElem?_draws rotate earlier at_j, ?_⟩
  rw [Sampler.nodup_nthWindow_iff]
  cases rotate <;> simp [Sampler.Doubled]

theorem forall_nodup_drawn_iff {rotate : Bool} {earlier : List Form} {form : Form}
    (going : ¬ form.Skipped) :
    (∀ w ∈ ((samplerAfter earlier { rotate := rotate }).draws form.keys).1, w.Nodup) ↔
      ¬ MeetsDoubled rotate earlier form := by
  have count := (Sampler.drawable_draws (samplerAfter earlier { rotate := rotate })
    form.keys).length_eq
  constructor
  · rintro different ⟨rotates, _, j, key, at_j, doubled⟩
    obtain ⟨w, drawn, nodup_iff⟩ := nodup_drawn_iff rotate earlier at_j
    exact nodup_iff.mp (different w (List.mem_of_getElem? drawn)) ⟨rotates, doubled⟩
  · intro never w mem
    obtain ⟨j, here⟩ := List.mem_iff_getElem?.mp mem
    obtain ⟨bound, _⟩ := List.getElem?_eq_some_iff.mp here
    have at_j : form.keys[j]? = some form.keys[j] := List.getElem?_eq_getElem (by omega)
    obtain ⟨v, drawn, nodup_iff⟩ := nodup_drawn_iff rotate earlier at_j
    obtain rfl : w = v := Option.some.inj (here.symm.trans drawn)
    exact nodup_iff.mpr fun ⟨rotates, doubled⟩ => never ⟨rotates, going, j, _, at_j, doubled⟩

structure RepeatLaw (rotate : Bool) (earlier : List Form) (form : Form) (steps : List Step) :
    Prop where
  cases : steps.Pairwise (fun a b => ¬ a.SameCase b) ↔ ¬ MeetsDoubled rotate earlier form
  windows : ¬ form.Skipped → ∃ windows, steps = attempts form form.keys (choices windows) ∧
    windows.length = form.keys.length ∧
    ((∀ w ∈ windows, w.Nodup) ↔ steps.Pairwise fun a b => ¬ a.SameCase b) ∧
    ∀ j key, form.keys[j]? = some key → ∃ w, windows[j]? = some w ∧
      (w.Nodup ↔ ¬ (rotate = true ∧ Sampler.Doubled key (windowNumber earlier form j key)))

theorem repeatLaw (rotate : Bool) (earlier : List Form) (form : Form) :
    RepeatLaw rotate earlier form
      (ofForm form (samplerAfter earlier { rotate := rotate })).1 := by
  by_cases skipped : form.Skipped
  · rw [ofForm_of_skipped skipped]
    refine ⟨iff_of_true (List.pairwise_singleton _ _) fun meets => meets.2.1 skipped, ?_⟩
    exact fun going => absurd skipped going
  · rw [ofForm_of_not_skipped skipped]
    have drawable := Sampler.drawable_draws (samplerAfter earlier { rotate := rotate }) form.keys
    have nonempty := Sampler.not_mem_nil_of_drawable drawable
      fun key mem empty => skipped ⟨key, mem, empty⟩
    have cases_iff := (pairwise_attempts fun args mem =>
      Sampler.entries_of_drawable drawable mem).trans (nodup_choices nonempty)
    exact ⟨cases_iff.trans (forall_nodup_drawn_iff skipped),
      fun _ => ⟨_, rfl, drawable.length_eq.symm, cases_iff.symm,
        fun j key at_j => nodup_drawn_iff rotate earlier at_j⟩⟩

/-- The attempts of each form of a run are pairwise different cases, up to the windows that
hold an entry twice. -/
theorem run_repeats_cases_of_doubled_windows (rotate : Bool) (earlier later : List Form)
    (form : Form) :
    (∀ {σ φ : Type} (encode : Encode σ φ) (setting : Option String) (s : σ),
      Batch.ofForms encode setting (earlier ++ form :: later) { rotate := rotate } s =
        Batch.ofSteps encode setting
          ((byForm (earlier ++ form :: later) { rotate := rotate }).flatMap Prod.snd) s) ∧
      ∃ steps, (byForm (earlier ++ form :: later) { rotate := rotate })[earlier.length]? =
        some (form, steps) ∧ RepeatLaw rotate earlier form steps :=
  ⟨fun encode setting s => Batch.ofForms_eq_ofSteps_plan encode setting _ _ s,
    _, getElem?_byForm_length earlier later form _, repeatLaw rotate earlier form⟩

/-- Two forms with three operands of class `zmm` bring the third to a window that holds
register two beside itself. -/
theorem third_form_repeats_cases :
    let bytes : Form :=
      ⟨{ intel := "VPADDB zmm1, zmmV, zmm2", go := "VPADDB zmm2, zmmV, zmm1" },
        ["zmm1", "zmmV", "zmm2"]⟩
    let words : Form :=
      ⟨{ intel := "VPADDW zmm1, zmmV, zmm2", go := "VPADDW zmm2, zmmV, zmm1" },
        ["zmm1", "zmmV", "zmm2"]⟩
    let doublewords : Form :=
      ⟨{ intel := "VPADDD zmm1, zmmV, zmm2", go := "VPADDD zmm2, zmmV, zmm1" },
        ["zmm1", "zmmV", "zmm2"]⟩
    (∀ f ∈ [bytes, words, doublewords], f ∈ f.record.forms) ∧
      ∃ steps, (byForm [bytes, words, doublewords] { rotate := true })[2]? =
        some (doublewords, steps) ∧ ¬ steps.Pairwise fun a b => ¬ a.SameCase b := by
  intro bytes words doublewords
  have produced : ∀ f ∈ [bytes, words, doublewords], f ∈ f.record.forms := by decide +kernel
  have going : ¬ doublewords.Skipped := by decide +kernel
  have first : doublewords.keys[0]? = some "zmm" := by decide +kernel
  have number : windowNumber [bytes, words] doublewords 0 "zmm" = 6 := by decide +kernel
  have meets : MeetsDoubled true [bytes, words] doublewords :=
    ⟨rfl, going, 0, "zmm", first, by rw [number]; decide⟩
  refine ⟨produced, _, getElem?_byForm_length [bytes, words] [] doublewords _, ?_⟩
  exact fun different => (repeatLaw true _ _).cases.mp different meets

end Step

end AsmFixtures
