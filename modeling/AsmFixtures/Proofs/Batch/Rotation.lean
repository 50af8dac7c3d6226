import AsmFixtures.Proofs.Batch.Step

/-! How the forms of a run depend on each other. Under rotation a form finds, for each of
its classes, the window whose number is how often earlier forms drew from that class; a
skipped form drew nothing. Only these numbers carry anything from one form to the next, so
a skipped form may be left out, and neighbours without a common class may change places.
Without rotation nothing is carried over at all. -/

namespace AsmFixtures

open OperandClass

namespace Step

def drawCount (forms : List Form) (key : String) : Nat :=
  ((forms.filter fun f => ¬ f.Skipped).flatMap Form.keys).count key

theorem drawCount_cons (form : Form) (rest : List Form) (key : String) :
    drawCount (form :: rest) key = drawCount [form] key + drawCount rest key := by
  rw [← List.singleton_append]
  simp only [drawCount, List.filter_append, List.flatMap_append, List.count_append]

theorem drawCount_of_skipped {form : Form} (h : form.Skipped) (key : String) :
    drawCount [form] key = 0 := by
  simp [drawCount, h]

theorem drawCount_of_not_skipped {form : Form} (h : ¬ form.Skipped) (key : String) :
    drawCount [form] key = form.keys.count key := by
  simp [drawCount, h]

theorem drawCount_of_not_mem {form : Form} {key : String} (h : key ∉ form.keys) :
    drawCount [form] key = 0 := by
  by_cases skipped : form.Skipped
  · exact drawCount_of_skipped skipped key
  · rw [drawCount_of_not_skipped skipped, List.count_eq_zero_of_not_mem h]

def stepsAfter (times : String → Nat) (form : Form) : List Step :=
  if form.Skipped then [.skip form (form.keys.filter fun key => Sampler.peekCount key = 0)]
  else attempts form form.keys (choices (Sampler.windowsAfter times form.keys))

theorem stepsAfter_congr {times others : String → Nat} {form : Form}
    (h : ∀ key ∈ form.keys, times key = others key) :
    stepsAfter times form = stepsAfter others form := by
  rw [stepsAfter, stepsAfter, Sampler.windowsAfter_congr h]

theorem ofForm_of_drawn {sampler : Sampler} {times : String → Nat} (h : sampler.Drawn times)
    (form : Form) :
    (ofForm form sampler).1 = stepsAfter times form ∧
      (ofForm form sampler).2.Drawn fun key => times key + drawCount [form] key := by
  by_cases skipped : form.Skipped
  · rw [ofForm_of_skipped skipped, stepsAfter, if_pos skipped]
    simpa [drawCount_of_skipped skipped] using h
  · obtain ⟨windows, after⟩ := Sampler.draws_of_drawn h form.keys
    rw [ofForm_of_not_skipped skipped, stepsAfter, if_neg skipped, windows]
    simpa [drawCount_of_not_skipped skipped] using after

theorem samplerAfter_of_drawn {sampler : Sampler} {times : String → Nat}
    (h : sampler.Drawn times) (forms : List Form) :
    (samplerAfter forms sampler).Drawn fun key => times key + drawCount forms key := by
  induction forms generalizing sampler times with
  | nil => simpa [samplerAfter, drawCount] using h
  | cons form rest ih =>
    have after := ih (ofForm_of_drawn h form).2
    simpa only [samplerAfter, drawCount_cons form rest, Nat.add_assoc] using after

theorem byForm_congr {a b : Sampler} {times : String → Nat} (ha : a.Drawn times)
    (hb : b.Drawn times) (forms : List Form) : byForm forms a = byForm forms b := by
  induction forms generalizing a b times with
  | nil => rfl
  | cons form rest ih =>
    obtain ⟨stepsA, afterA⟩ := ofForm_of_drawn ha form
    obtain ⟨stepsB, afterB⟩ := ofForm_of_drawn hb form
    rw [byForm, byForm, stepsA, stepsB, ih afterA afterB]

theorem byForm_swap {sampler : Sampler} {times : String → Nat} (h : sampler.Drawn times)
    (before after : List Form) {a b : Form} (apart : ∀ key ∈ a.keys, key ∉ b.keys) :
    ∃ p stepsA stepsB q, p.length = before.length ∧
      byForm (before ++ a :: b :: after) sampler = p ++ (a, stepsA) :: (b, stepsB) :: q ∧
      byForm (before ++ b :: a :: after) sampler = p ++ (b, stepsB) :: (a, stepsA) :: q := by
  have here := samplerAfter_of_drawn h before
  obtain ⟨firstA, afterA⟩ := ofForm_of_drawn here a
  obtain ⟨firstB, afterB⟩ := ofForm_of_drawn here b
  obtain ⟨secondB, afterAB⟩ := ofForm_of_drawn afterA b
  obtain ⟨secondA, afterBA⟩ := ofForm_of_drawn afterB a
  -- A draw from other classes does not move the windows that a form finds.
  have sameA : stepsAfter (fun key => times key + drawCount before key + drawCount [b] key) a =
      stepsAfter (fun key => times key + drawCount before key) a :=
    stepsAfter_congr fun key mem => by rw [drawCount_of_not_mem (apart key mem), Nat.add_zero]
  have sameB : stepsAfter (fun key => times key + drawCount before key + drawCount [a] key) b =
      stepsAfter (fun key => times key + drawCount before key) b :=
    stepsAfter_congr fun key mem => by
      rw [drawCount_of_not_mem fun other => apart key other mem, Nat.add_zero]
  have counts : (fun key => times key + drawCount before key + drawCount [b] key +
      drawCount [a] key) =
        fun key => times key + drawCount before key + drawCount [a] key + drawCount [b] key := by
    funext key
    exact Nat.add_right_comm _ _ _
  rw [counts] at afterBA
  refine ⟨byForm before sampler, stepsAfter (fun key => times key + drawCount before key) a,
    stepsAfter (fun key => times key + drawCount before key) b,
    byForm after (ofForm b (ofForm a (samplerAfter before sampler)).2).2,
    length_byForm before sampler, ?_, ?_⟩
  · rw [byForm_append, byForm, byForm, firstA, secondB, sameB]
  · rw [byForm_append, byForm, byForm, firstB, secondA, sameA, byForm_congr afterBA afterAB]

theorem ofForm_of_not_rotate {sampler : Sampler} (h : sampler.rotate = false) (form : Form) :
    (ofForm form sampler).1 = (ofForm form {}).1 ∧ (ofForm form sampler).2 = sampler := by
  by_cases skipped : form.Skipped
  · rw [ofForm_of_skipped skipped, ofForm_of_skipped skipped]
    exact ⟨rfl, rfl⟩
  · rw [ofForm_of_not_skipped skipped, ofForm_of_not_skipped skipped,
      Sampler.draws_of_not_rotate h, Sampler.draws_of_not_rotate rfl]
    exact ⟨rfl, rfl⟩

theorem byForm_of_not_rotate {sampler : Sampler} (h : sampler.rotate = false)
    (forms : List Form) :
    byForm forms sampler = forms.map fun form => (form, (ofForm form {}).1) := by
  induction forms with
  | nil => rfl
  | cons form rest ih =>
    obtain ⟨steps, still⟩ := ofForm_of_not_rotate h form
    rw [byForm, steps, still, ih, List.map_cons]

theorem samplerAfter_of_not_rotate {sampler : Sampler} (h : sampler.rotate = false)
    (forms : List Form) : samplerAfter forms sampler = sampler := by
  induction forms with
  | nil => rfl
  | cons form rest ih => rw [samplerAfter, (ofForm_of_not_rotate h form).2, ih]

/-- Which window of a class an operand position finds: one for each operand of that class
in earlier forms that were not skipped, and one for each earlier operand of the same form. -/
def windowNumber (earlier : List Form) (form : Form) (j : Nat) (key : String) : Nat :=
  drawCount earlier key + (form.keys.take j).count key

/-- The windows that the operands of a form find after earlier forms. Windows of a class
have equal lengths and follow each other in cyclic order through its domain. -/
structure FindsWindows (earlier : List Form) (form : Form) (windows : List (List Entry)) :
    Prop where
  length_eq : windows.length = form.keys.length
  window : ∀ j key, form.keys[j]? = some key → ∃ entries, windows[j]? = some entries ∧
    entries.length = Sampler.peekCount key ∧
    ∀ i < Sampler.peekCount key, entries[i]? =
      (domain key)[(windowNumber earlier form j key * Sampler.peekCount key + i) %
        (domain key).length]?

theorem findsWindows_windowsAfter {earlier : List Form} {form : Form} (h : ¬ form.Skipped) :
    FindsWindows earlier form (Sampler.windowsAfter (drawCount earlier) form.keys) where
  length_eq := Sampler.length_windowsAfter _ _
  window j key at_j := by
    have present : key ∈ form.keys := List.mem_of_getElem? at_j
    have nonempty : domain key ≠ [] :=
      Sampler.domain_ne_nil fun empty => h ⟨key, present, empty⟩
    refine ⟨_, Sampler.getElem?_windowsAfter at_j, Sampler.length_window nonempty _ _, ?_⟩
    intro i hi
    exact Sampler.getElem?_window nonempty _ hi

theorem getElem?_byForm {earlier later : List Form} {form : Form} (h : ¬ form.Skipped) :
    ∃ windows, FindsWindows earlier form windows ∧
      (byForm (earlier ++ form :: later) { rotate := true })[earlier.length]? =
        some (form, attempts form form.keys (choices windows)) := by
  have here := samplerAfter_of_drawn Sampler.drawn_start earlier
  simp only [Nat.zero_add] at here
  refine ⟨_, findsWindows_windowsAfter h, ?_⟩
  rw [getElem?_byForm_length, (ofForm_of_drawn here form).1, stepsAfter, if_neg h]

end Step

def Encode.Fixed {σ φ : Type} (encode : Encode σ φ) : Prop :=
  ∀ inst a b, (encode inst a).1 = (encode inst b).1

theorem Step.perform_congr {σ φ : Type} {encode : Encode σ φ} (fixed : encode.Fixed)
    (setting : Option String) (step : Step) (a b : σ) :
    (step.perform encode setting a).1 = (step.perform encode setting b).1 := by
  cases step with
  | skip form emptyKeys =>
    simp only [perform, performSkip]
    split
    · rfl
    · split <;> rfl
  | attempt form params args =>
    by_cases named : form.record.Named
    · have same := fixed (form.instruction params args) a b
      simp only [perform, performAttempt_of_named named]
      rcases hereA : encode (form.instruction params args) a with ⟨verdict, _, _⟩
      rcases hereB : encode (form.instruction params args) b with ⟨other, _, _⟩
      obtain rfl : verdict = other := by simpa [hereA, hereB] using same
      cases verdict <;> rfl
    · have blank : Text.AllBlank form.record.go ∨ Text.AllBlank form.record.intel := by
        by_contra none
        rw [not_or] at none
        exact named ⟨none.2, none.1⟩
      rw [perform, perform, performAttempt_of_blank _ _ _ blank,
        performAttempt_of_blank _ _ _ blank]

namespace Batch

variable {σ φ : Type} {encode : Encode σ φ} {setting : Option String}

def share (encode : Encode σ φ) (setting : Option String) (steps : List Step) (s : σ) :
    List Outcome × Option (Stop φ) :=
  ((ofSteps encode setting steps s).1.outcomes, (ofSteps encode setting steps s).1.stop)

def shares (encode : Encode σ φ) (setting : Option String) (forms : List Form)
    (sampler : Sampler) (s : σ) : List (Form × List Outcome × Option (Stop φ)) :=
  (contributions encode setting forms sampler s).1.map fun (form, batch) =>
    (form, batch.outcomes, batch.stop)

/-- What is left of some shares when the first stop among them ends the run. -/
def upToStop : List (Form × List Outcome × Option (Stop φ)) →
    List (Form × List Outcome × Option (Stop φ))
  | [] => []
  | (form, outcomes, stop) :: rest =>
    (form, outcomes, stop) :: if stop.isSome then [] else upToStop rest

theorem shares_cons (form : Form) (rest : List Form) (sampler : Sampler) (s : σ) :
    shares encode setting (form :: rest) sampler s =
      (form, share encode setting (Step.ofForm form sampler).1 s) ::
        if (share encode setting (Step.ofForm form sampler).1 s).2.isSome then []
        else shares encode setting rest (Step.ofForm form sampler).2
          (ofSteps encode setting (Step.ofForm form sampler).1 s).2 := by
  rcases reply : ofSteps encode setting (Step.ofForm form sampler).1 s with
    ⟨⟨outcomes, printed, stop⟩, state⟩
  cases stop with
  | none => simp [shares, contributions, ofForm, share, reply]
  | some stop => simp [shares, contributions, ofForm, share, reply]

theorem share_congr (fixed : encode.Fixed) (setting : Option String) (steps : List Step)
    (a b : σ) :
    share encode setting steps a = share encode setting steps b := by
  induction steps generalizing a b with
  | nil => rfl
  | cons step rest ih =>
    have same := Step.perform_congr fixed setting step a b
    rcases hereA : step.perform encode setting a with ⟨result, printedA, nextA⟩
    rcases hereB : step.perform encode setting b with ⟨other, printedB, nextB⟩
    obtain rfl : result = other := by simpa [hereA, hereB] using same
    have later := ih nextA nextB
    simp only [share, Prod.mk.injEq] at later
    cases result with
    | error stop => simp only [share, ofSteps, hereA, hereB]
    | ok outcome => simp only [share, ofSteps, hereA, hereB, later]

theorem shares_eq_upToStop (fixed : encode.Fixed) (setting : Option String)
    (forms : List Form) (sampler : Sampler) (s t : σ) :
    shares encode setting forms sampler s =
      upToStop ((Step.byForm forms sampler).map fun (form, steps) =>
        (form, share encode setting steps t)) := by
  induction forms generalizing sampler s with
  | nil => rfl
  | cons form rest ih =>
    have here := share_congr fixed setting (Step.ofForm form sampler).1 s t
    rw [shares_cons, here, ih, Step.byForm, List.map_cons, upToStop]

inductive Thinned : List Form → List Form → Prop
  | done : Thinned [] []
  | kept {form : Form} {forms others : List Form} (rest : Thinned forms others) :
      Thinned (form :: forms) (form :: others)
  | dropped {form : Form} {forms others : List Form} (skipped : form.Skipped)
      (rest : Thinned forms others) : Thinned (form :: forms) others

theorem ofForms_cons (encode : Encode σ φ) (setting : Option String) (form : Form)
    (rest : List Form) (sampler : Sampler) (s : σ) :
    ofForms encode setting (form :: rest) sampler s =
      let (first, state) := ofSteps encode setting (Step.ofForm form sampler).1 s
      if first.stop.isSome then (first, state)
      else
        let (others, last) := ofForms encode setting rest (Step.ofForm form sampler).2 state
        (first.append others, last) := by
  simp only [ofForms_eq_ofSteps_plan]
  rw [Step.plan_cons, ofSteps_append]

theorem ofForms_cons_of_skipped (encode : Encode σ φ) (valid : (Silence.parse? setting).isOk)
    {form : Form} (produced : form ∈ form.record.forms) (skipped : form.Skipped)
    (rest : List Form) (sampler : Sampler) (s : σ) :
    ∃ skip printed, ofForms encode setting (form :: rest) sampler s =
      (append ⟨[.skip skip], [printed], none⟩ (ofForms encode setting rest sampler s).1,
        (ofForms encode setting rest sampler s).2) := by
  obtain ⟨silence, parsed⟩ := exists_silence valid
  have sound : ∀ emptyKeys, (Step.skip form emptyKeys).Sound := by
    intro emptyKeys blank
    obtain ⟨key, mem, _⟩ := skipped
    simp [Form.keys_eq_nil_of_blank produced blank] at mem
  rw [ofForms_cons, Step.ofForm_of_skipped skipped]
  simp only [ofSteps, Step.perform, Step.performSkip_of_sound (sound _), parsed]
  exact ⟨_, _, rfl⟩

/-- Skipped forms leave no trace in the fixtures and failures of the other forms. -/
theorem records_of_thinned (valid : (Silence.parse? setting).isOk) {forms others : List Form}
    (h : Thinned forms others) (produced : ∀ f ∈ forms, f ∈ f.record.forms)
    (sampler : Sampler) (s : σ) :
    (ofForms encode setting others sampler s).1.fixtures =
        (ofForms encode setting forms sampler s).1.fixtures ∧
      (ofForms encode setting others sampler s).1.failures =
        (ofForms encode setting forms sampler s).1.failures ∧
      (ofForms encode setting others sampler s).1.stop =
        (ofForms encode setting forms sampler s).1.stop := by
  induction h generalizing sampler s with
  | done => exact ⟨rfl, rfl, rfl⟩
  | @kept form _ _ _ ih =>
    obtain ⟨fixtures, failures, stop⟩ := ih (fun f hf => produced f (List.mem_cons_of_mem _ hf))
      (Step.ofForm form sampler).2 (ofSteps encode setting (Step.ofForm form sampler).1 s).2
    rw [ofForms_cons, ofForms_cons]
    dsimp only
    split
    · exact ⟨rfl, rfl, rfl⟩
    · simp only [Batch.fixtures, Batch.failures, append, List.filterMap_append] at *
      rw [fixtures, failures, stop]
      exact ⟨rfl, rfl, rfl⟩
  | @dropped form forms _ skipped _ ih =>
    obtain ⟨skip, printed, first⟩ := ofForms_cons_of_skipped encode valid
      (produced form List.mem_cons_self) skipped forms sampler s
    rw [first]
    exact ih (fun f hf => produced f (List.mem_cons_of_mem _ hf)) sampler s

theorem outcomes_ofForms (forms : List Form) (sampler : Sampler) (s : σ) :
    (ofForms encode setting forms sampler s).1.outcomes =
      (shares encode setting forms sampler s).flatMap fun share => share.2.1 := by
  have sums : ∀ parts : List (Form × Batch φ), (sum (parts.map Prod.snd)).outcomes =
      parts.flatMap fun part => part.2.outcomes := by
    intro parts
    induction parts with
    | nil => rfl
    | cons part rest ih =>
      rw [List.flatMap_cons, ← ih]
      rfl
  simp only [ofForms, sums, shares, List.flatMap_map]

/-- What earlier forms of a run mean for the later ones. -/
structure HistoryLaw (encode : Encode σ φ) (setting : Option String) : Prop where
  performs : ∀ forms sampler s,
    ofForms encode setting forms sampler s =
        ofSteps encode setting ((Step.byForm forms sampler).flatMap Prod.snd) s ∧
      (ofForms encode setting forms sampler s).1.outcomes =
        (shares encode setting forms sampler s).flatMap fun share => share.2.1
  windows : ∀ earlier form later, ¬ form.Skipped →
    ∃ windows, Step.FindsWindows earlier form windows ∧
      (Step.byForm (earlier ++ form :: later) { rotate := true })[earlier.length]? =
        some (form, Step.attempts form form.keys (choices windows))
  thinned : ∀ forms others, Thinned forms others → (∀ f ∈ forms, f ∈ f.record.forms) →
    ∀ sampler s,
      (ofForms encode setting others sampler s).1.fixtures =
          (ofForms encode setting forms sampler s).1.fixtures ∧
        (ofForms encode setting others sampler s).1.failures =
          (ofForms encode setting forms sampler s).1.failures ∧
        (ofForms encode setting others sampler s).1.stop =
          (ofForms encode setting forms sampler s).1.stop
  swapped : encode.Fixed → ∀ before a b after s, (∀ key ∈ a.keys, key ∉ b.keys) →
    ∃ earlier shareA shareB later, earlier.length = before.length ∧
      shares encode setting (before ++ a :: b :: after) { rotate := true } s =
        upToStop (earlier ++ (a, shareA) :: (b, shareB) :: later) ∧
      shares encode setting (before ++ b :: a :: after) { rotate := true } s =
        upToStop (earlier ++ (b, shareB) :: (a, shareA) :: later)
  unrotated : encode.Fixed → ∀ s, ∃ own : Form → List Outcome × Option (Stop φ),
    ∀ forms cursors, shares encode setting forms ⟨false, cursors⟩ s =
      upToStop (forms.map fun form => (form, own form))

theorem run_obeys_history_law (encode : Encode σ φ) (setting : Option String)
    (valid : (Silence.parse? setting).isOk) : HistoryLaw encode setting where
  performs forms sampler s :=
    ⟨ofForms_eq_ofSteps_plan encode setting forms sampler s, outcomes_ofForms forms sampler s⟩
  windows _ _ _ going := Step.getElem?_byForm going
  thinned _ _ thinned produced := records_of_thinned valid thinned produced
  swapped fixed before a b after s apart := by
    obtain ⟨p, stepsA, stepsB, q, length, here, there⟩ :=
      Step.byForm_swap Sampler.drawn_start before after apart
    have performed := fun forms => shares_eq_upToStop fixed setting forms { rotate := true } s s
    simp only [performed, here, there, List.map_append, List.map_cons]
    refine ⟨_, _, _, _, ?_, rfl, rfl⟩
    rw [List.length_map, length]
  unrotated fixed s := by
    refine ⟨fun form => share encode setting (Step.ofForm form {}).1 s, fun forms cursors => ?_⟩
    rw [shares_eq_upToStop fixed setting forms _ s s, Step.byForm_of_not_rotate rfl, List.map_map]
    rfl

/-- The second of two like forms draws windows two and three of its class. -/
theorem run_obeys_history_law_for_masks :
    let mask : Form := ⟨{ intel := "KNOTQ k1, k2", go := "KNOTQ K2, K1" }, ["k1", "k2"]⟩
    let encode : Encode Nat Unit := fun _ count => (.encoded "90", "", count + 1)
    (Silence.parse? (some "1")).isOk ∧ encode.Fixed ∧ HistoryLaw encode (some "1") ∧
      ∃ windows entries, Step.FindsWindows [mask] mask windows ∧
        (Step.byForm [mask, mask] { rotate := true })[1]? =
          some (mask, Step.attempts mask mask.keys (choices windows)) ∧
        windows[1]? = some entries ∧ entries.map (·.goSyntax) = ["K5", "K6"] := by
  intro mask encode
  have valid : (Silence.parse? (some "1")).isOk := by decide +kernel
  have law : HistoryLaw encode (some "1") := run_obeys_history_law encode (some "1") valid
  have going : ¬ mask.Skipped := by decide +kernel
  have second : mask.keys[1]? = some "k" := by decide +kernel
  obtain ⟨windows, finds, planned⟩ := law.windows [mask] mask [] going
  obtain ⟨entries, found, length, entry⟩ := finds.window 1 "k" second
  have count : Sampler.peekCount "k" = 2 := by decide +kernel
  have number : Step.windowNumber [mask] mask 1 "k" = 3 := by decide +kernel
  rw [count] at length entry
  have sixth := entry 0 (by decide)
  have seventh := entry 1 (by decide)
  rw [number] at sixth seventh
  refine ⟨valid, fun _ _ _ => rfl, law, windows, entries, finds, planned, found, ?_⟩
  apply List.ext_getElem?
  intro i
  rcases i with _ | _ | i
  · rw [List.getElem?_map, sixth]
    decide +kernel
  · rw [List.getElem?_map, seventh]
    decide +kernel
  · have beyond : entries.length ≤ i + 1 + 1 := by omega
    simp [List.getElem?_eq_none beyond]

end Batch

end AsmFixtures
