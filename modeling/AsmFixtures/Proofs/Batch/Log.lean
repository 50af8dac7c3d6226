import AsmFixtures.Proofs.Batch.Step
import AsmFixtures.Proofs.Text.Pieces
import Mathlib

/-! What a run logs. Skips and failures have an entry each, and a valid setting only decides
which entries are printed: a run under any valid setting is the run with a silent log, with the
entries of its outcomes put in between the texts that the encoder prints. -/

namespace AsmFixtures

structure LogEntry where
  kind : LogKind
  text : String
deriving DecidableEq

def Silence.print (silence : Silence) (entries : List LogEntry) : String :=
  Text.concat ((entries.filter fun e => ! silence e.kind).map LogEntry.text)

theorem Silence.print_append (silence : Silence) (first second : List LogEntry) :
    silence.print (first ++ second) = silence.print first ++ silence.print second := by
  simp [print]

theorem Silence.parse?_one : parse? (some "1") = .ok fun _ => true := by cbv

namespace Outcome

def entry? : Outcome → Option LogEntry
  | fixture _ => none
  | failure f => some ⟨.failedEncoding, "FAILED(" ++ f.asm ++ ") [" ++ Param.listing f.params ++
      "]: " ++ f.error.message ++ "\n"⟩
  | skip s => some ⟨.skippedForm, "SKIPPED(" ++ s.form.text?.getD "" ++ "): " ++ s.reason ++ "\n"⟩

def logText (silence : Silence) (o : Outcome) : String := silence.print o.entry?.toList

theorem print_filterMap_cons (silence : Silence) (o : Outcome) (rest : List Outcome) :
    silence.print ((o :: rest).filterMap entry?) =
      o.logText silence ++ silence.print (rest.filterMap entry?) := by
  rw [logText, ← Silence.print_append]
  cases entry : o.entry? <;> simp [entry]

end Outcome

def Batch.entries {φ : Type} (b : Batch φ) : List LogEntry := b.outcomes.filterMap Outcome.entry?

variable {σ φ : Type} {encode other : Encode σ φ} {setting : Option String} {silence : Silence}

namespace Step

def logText (silence : Silence) : Except (Stop φ) Outcome → String
  | .error _ => ""
  | .ok outcome => outcome.logText silence

theorem perform_eq_of_silenced (valid : Silence.parse? setting = .ok silence) (step : Step)
    (encode : Encode σ φ) (s : σ) :
    step.perform encode setting s =
      ((step.perform encode (some "1") s).1,
        (step.perform encode (some "1") s).2.1 ++
          logText silence (step.perform encode (some "1") s).1,
        (step.perform encode (some "1") s).2.2) := by
  have here := logged?_of_parse_ok valid
  have silent := logged?_of_parse_ok Silence.parse?_one
  cases step with
  | skip form emptyKeys =>
    cases text : form.text? with
    | none => simp [perform, performSkip, text, logText]
    | some text =>
      cases kind : silence .skippedForm <;>
        simp [perform, performSkip, text, here, silent, kind, logText, Outcome.logText,
          Outcome.entry?, Silence.print]
  | attempt form params args =>
    unfold perform performAttempt
    dsimp only
    split
    · rename_i goOpcode opcode _ _
      rcases reply : encode (.of opcode params (args.map (·.argument))) s with
        ⟨verdict, printed, next⟩
      cases verdict with
      | encoded hex => simp [reply, logText, Outcome.logText, Outcome.entry?, Silence.print]
      | fatal cause => simp [reply, logText]
      | refused error =>
        cases kind : silence .failedEncoding <;>
          simp [reply, recordFailure, here, silent, kind, logText, Outcome.logText,
            Outcome.entry?, Silence.print, failureEntry]
    · simp [logText]

theorem perform_silenced (step : Step) (encode : Encode σ φ) (s : σ) :
    (step.perform encode (some "1") s).2 = ("", s) ∨
      ∃ inst, (step.perform encode (some "1") s).2 = (encode inst s).2 := by
  have silent := logged?_of_parse_ok Silence.parse?_one
  cases step with
  | skip form emptyKeys =>
    left
    cases text : form.text? <;> simp [perform, performSkip, text, silent]
  | attempt form params args =>
    unfold perform performAttempt
    dsimp only
    split
    · rename_i opcode _ _
      refine .inr ⟨.of opcode params (args.map (·.argument)), ?_⟩
      rcases reply : encode (.of opcode params (args.map (·.argument))) s with
        ⟨verdict, printed, next⟩
      cases verdict <;> simp [reply, recordFailure, silent]
    · exact .inl rfl

end Step

namespace Batch

/-- The outcomes, the stop and the encoder's state are those of the run with a silent log, and
each step prints its entry behind what it prints there. -/
theorem ofSteps_eq_of_silenced (valid : Silence.parse? setting = .ok silence)
    (encode : Encode σ φ) (steps : List Step) (s : σ) :
    ofSteps encode setting steps s =
      ({ (ofSteps encode (some "1") steps s).1 with
          printed := List.zipWith (· ++ ·) (ofSteps encode (some "1") steps s).1.printed
            ((ofSteps encode (some "1") steps s).1.outcomes.map (·.logText silence) ++ [""]) },
        (ofSteps encode (some "1") steps s).2) := by
  -- A step that stops the run prints a text but has no outcome: the empty text behind the entries
  -- is its share, and the texts of a run that goes on do not reach it.
  induction steps generalizing s with
  | nil => rfl
  | cons step rest ih =>
    have added := Step.perform_eq_of_silenced valid step encode s
    rcases reply : step.perform encode (some "1") s with ⟨result, printed, next⟩
    rw [reply] at added
    cases result with
    | error stop => simp [ofSteps, reply, added, Step.logText]
    | ok outcome => simp [ofSteps, reply, added, Step.logText, ih next]

variable {Holds : σ → Prop}

theorem holds_perform (keeps : ∀ inst s, Holds s → Holds (encode inst s).2.2) {s : σ}
    (h : Holds s) (step : Step) (setting : Option String) :
    Holds (step.perform encode setting s).2.2 := by
  rcases step.state_perform encode setting s with same | ⟨inst, same⟩
  · rwa [same]
  · rw [same]
    exact keeps inst s h

/-- An encoder that prints nothing leaves the printing to the log. -/
theorem printedText_ofSteps (Holds : σ → Prop) (valid : Silence.parse? setting = .ok silence)
    (keeps : ∀ inst s, Holds s → Holds (encode inst s).2.2)
    (mute : ∀ inst s, Holds s → (encode inst s).2.1 = "") (steps : List Step) {s : σ}
    (h : Holds s) :
    (ofSteps encode setting steps s).1.printedText =
      silence.print (ofSteps encode setting steps s).1.entries := by
  induction steps generalizing s with
  | nil => rfl
  | cons step rest ih =>
    have quiet : (step.perform encode (some "1") s).2.1 = "" := by
      rcases step.perform_silenced encode s with own | ⟨inst, own⟩
      · rw [own]
      · rw [own]
        exact mute inst s h
    have added := Step.perform_eq_of_silenced valid step encode s
    have later := holds_perform keeps h step setting
    rw [quiet, String.empty_append] at added
    rcases reply : step.perform encode setting s with ⟨result, printed, next⟩
    rw [reply] at added later
    simp only [Prod.mk.injEq] at added
    have text : printed = Step.logText silence result := by rw [added.1, ← added.2.1]
    cases result with
    | error stop => simp [ofSteps, reply, printedText, text, Step.logText, entries, Silence.print]
    | ok outcome =>
      have tail := ih later
      simp only [printedText, entries] at tail
      simp [ofSteps, reply, printedText, text, Step.logText, entries, tail,
        Outcome.print_filterMap_cons]

theorem ofSteps_congr_encode (agree : ∀ inst s, Holds s → encode inst s = other inst s)
    (keeps : ∀ inst s, Holds s → Holds (encode inst s).2.2) (setting : Option String)
    (steps : List Step) {s : σ} (h : Holds s) :
    ofSteps encode setting steps s = ofSteps other setting steps s := by
  have replies : ∀ inst s t, s = t ∧ Holds s →
      SameReply (fun s t => s = t ∧ Holds s) (encode inst s) (other inst t) := by
    rintro inst s _ ⟨rfl, here⟩
    rw [← agree inst s here]
    exact .intro ⟨rfl, keeps inst s here⟩
  obtain ⟨batch, last, _⟩ := ofSteps_of_sameReply (fun _ _ _ _ => replies _) setting ⟨rfl, h⟩
  exact Prod.ext batch last

theorem ofForms_eq_of_silenced (valid : Silence.parse? setting = .ok silence)
    (encode : Encode σ φ) (forms : List Form) (sampler : Sampler) (s : σ) :
    ofForms encode setting forms sampler s =
      ({ (ofForms encode (some "1") forms sampler s).1 with
          printed := List.zipWith (· ++ ·) (ofForms encode (some "1") forms sampler s).1.printed
            ((ofForms encode (some "1") forms sampler s).1.outcomes.map (·.logText silence) ++
              [""]) },
        (ofForms encode (some "1") forms sampler s).2) := by
  rw [ofForms_eq_ofSteps_plan, ofForms_eq_ofSteps_plan]
  exact ofSteps_eq_of_silenced valid encode _ s

theorem ofForms_congr_setting {otherSetting : Option String} {otherSilence : Silence}
    (valid : Silence.parse? setting = .ok silence)
    (otherValid : Silence.parse? otherSetting = .ok otherSilence) (encode : Encode σ φ)
    (forms : List Form) (sampler : Sampler) (s : σ) :
    (ofForms encode setting forms sampler s).1.outcomes =
        (ofForms encode otherSetting forms sampler s).1.outcomes ∧
      (ofForms encode setting forms sampler s).1.stop =
        (ofForms encode otherSetting forms sampler s).1.stop ∧
      (ofForms encode setting forms sampler s).2 =
        (ofForms encode otherSetting forms sampler s).2 := by
  rw [ofForms_eq_of_silenced valid, ofForms_eq_of_silenced otherValid]
  exact ⟨rfl, rfl, rfl⟩

theorem printedText_ofForms (valid : Silence.parse? setting = .ok silence)
    (mute : ∀ inst s, (encode inst s).2.1 = "") (forms : List Form) (sampler : Sampler) (s : σ) :
    (ofForms encode setting forms sampler s).1.printedText =
      silence.print (ofForms encode setting forms sampler s).1.entries := by
  rw [ofForms_eq_ofSteps_plan]
  exact printedText_ofSteps (fun _ => True) valid (fun _ _ _ => trivial)
    (fun inst s _ => mute inst s) _ trivial

end Batch

end AsmFixtures
