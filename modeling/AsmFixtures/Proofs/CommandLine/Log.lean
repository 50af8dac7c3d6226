import AsmFixtures.Proofs.Batch.Log
import AsmFixtures.Proofs.CommandLine.Emission

/-! The log option. In front of the arguments it adds itself to what they ask for, and nothing
else. A run with it and the run without it read and generate the same, so long as the engine is
there: only building one looks at the log. They end alike and leave the same files, and the text
that both print stands behind the log of the one. -/

namespace AsmFixtures

namespace CommandLine

def Options.logging (o : Options) : Options := { o with log := true }

namespace Taken

def logging (t : Taken) : Taken := { t with options := t.options.logging }

theorem give_logging (t : Taken) (g : Given) : t.logging.give g = (t.give g).map logging := by
  rcases g with ⟨_ | _ | _ | _ | _, value⟩ <;> rfl

theorem giveAll_logging (t : Taken) (given : List Given) :
    t.logging.giveAll given = (t.giveAll given).map logging := by
  unfold giveAll
  induction given generalizing t with
  | nil => rfl
  | cons g rest ih =>
    rw [List.foldlM_cons, List.foldlM_cons, give_logging]
    cases t.give g with
    | error halt => rfl
    | ok next => exact ih next

theorem leaveAny_logging (t : Taken) (extra : Option String) :
    t.logging.leaveAny extra = (t.leaveAny extra).logging := by
  cases extra <;> rfl

/-- Words are taken in the same way whether the log option was among those before or not. Two
words may be taken at once, so the cases are those of the program and not of a list. -/
theorem words_logging : ∀ (t : Taken) (words : List Word),
    t.logging.words words = (t.words words).map logging
  | t, [] => rfl
  | t, .argument text :: rest => by
    have kept : t.logging.csv = t.csv := rfl
    have left := words_logging (t.leave text) rest
    rw [words.eq_def t.logging, words.eq_def t]
    dsimp only
    rw [kept]
    cases t.csv with
    | some _ => exact left
    | none =>
      dsimp only
      split
      · exact words_logging { t with csv := some text } _
      · exact words_logging { t with csv := some text } _
  | t, .separator :: rest => by
    have kept : t.logging.csv = t.csv := rfl
    have left := words_logging (t.leave "--") rest
    rw [words.eq_def t.logging, words.eq_def t]
    dsimp only
    rw [kept]
    split
    · exact words_logging { t with csv := some _ } _
    · exact left
  | t, .unknown text :: rest => words_logging (t.leave text) rest
  | t, .option o short attached :: rest => by
    rw [words.eq_def t.logging, words.eq_def t]
    dsimp only
    cases Spread.ofWord o short attached with
    | error halt => rfl
    | ok spread =>
      simp only [bind, Except.bind]
      cases spread.pending with
      | none =>
        dsimp only
        rw [leaveAny_logging, giveAll_logging]
        cases (t.leaveAny spread.extra).giveAll spread.given with
        | error halt => rfl
        | ok next => exact words_logging next rest
      | some waiting =>
        dsimp only
        split
        · rename_i value others
          rw [giveAll_logging]
          cases t.giveAll (spread.given ++ [⟨waiting, some value⟩]) with
          | error halt => rfl
          | ok next => exact words_logging next others
        · rfl
termination_by _ words => words.length

theorem finish_logging (t : Taken) : t.logging.finish = t.finish.map Options.logging := by
  have kept : t.logging.csv = t.csv := rfl
  unfold finish
  rw [kept]
  cases t.csv with
  | none => rfl
  | some csv =>
    have extras : t.logging.extras = t.extras := rfl
    dsimp only
    rw [extras]
    split <;> rfl

end Taken

theorem parse_log_cons (args : List String) :
    Options.parse ("-L" :: args) = (Options.parse args).map Options.logging := by
  have first : Word.ofText "-L" = .ok (.option .log true none) := by cbv
  have given : ∀ words, ({} : Taken).words (.option .log true none :: words) =
      ({} : Taken).logging.words words := by
    intro words
    rw [Taken.words.eq_def]
    rfl
  have texts : Word.ofTexts ("-L" :: args) =
      (Word.ofTexts args).map (.option .log true none :: ·) := by
    have apart : "-L" ≠ "--" := by decide
    rw [Word.ofTexts, if_neg apart, first]
    cases Word.ofTexts args <;> rfl
  unfold Options.parse
  rw [texts]
  cases Word.ofTexts args with
  | error halt => rfl
  | ok words =>
    simp only [bind, Except.bind, Except.map]
    rw [given, Taken.words_logging]
    cases ({} : Taken).words words with
    | error halt => rfl
    | ok taken => exact taken.finish_logging

end CommandLine

namespace Encoder.Shared

def Installed (s : Shared) : Prop := ∃ engine, s.engine = some engine

theorem encode_of_installed {s : Shared} (h : s.Installed) (inst : Instruction) :
    ∃ answer next, next.Installed ∧ ∀ host, s.encode host inst = (answer, "", next) := by
  obtain ⟨⟨library, session⟩, there⟩ := h
  refine ⟨((Engine.encode library inst).runOn session).1,
    s.install library ((Engine.encode library inst).runOn session).2, ⟨_, rfl⟩, fun _ => ?_⟩
  simp [encode, obtain, there]

end Encoder.Shared

namespace CommandLine

open Encoder

theorem encodeShared_of_installed {s : Shared} (h : s.Installed) (inst : Instruction) :
    ∃ verdict next, next.Installed ∧ ∀ host, encodeShared host inst s = (verdict, "", next) := by
  obtain ⟨answer, next, installed, same⟩ := Shared.encode_of_installed h inst
  rcases answer with (_ | _ | _ | _) | bytes
  all_goals exact ⟨_, next, installed, fun host => by rw [encodeShared, same host]⟩

theorem ofForms_of_installed {shared : Shared} (h : shared.Installed) {setting : Option String}
    {silence : Silence} (valid : Silence.parse? setting = .ok silence) (forms : List Form)
    (sampler : Sampler) (host other : Host) :
    ∃ printed,
      Batch.ofForms (encodeShared host) setting forms sampler shared =
        ({ (Batch.ofForms (encodeShared other) (some "1") forms sampler shared).1 with
            printed := printed },
          (Batch.ofForms (encodeShared other) (some "1") forms sampler shared).2) ∧
      Text.concat printed = silence.print
        (Batch.ofForms (encodeShared other) (some "1") forms sampler shared).1.entries := by
  have each : ∀ inst s, s.Installed → encodeShared host inst s = encodeShared other inst s ∧
      (encodeShared host inst s).2.2.Installed ∧ (encodeShared host inst s).2.1 = "" := by
    intro inst s here
    obtain ⟨verdict, next, installed, same⟩ := encodeShared_of_installed here inst
    rw [same host, same other]
    exact ⟨rfl, installed, rfl⟩
  have agree := fun inst s here => (each inst s here).1
  have keeps := fun inst s here => (each inst s here).2.1
  have mute := fun inst s here => (each inst s here).2.2
  simp only [Batch.ofForms_eq_ofSteps_plan]
  have silent := Batch.ofSteps_congr_encode agree keeps (some "1") (Step.plan forms sampler) h
  have run := Batch.ofSteps_eq_of_silenced valid (encodeShared host) (Step.plan forms sampler)
    shared
  have text := Batch.printedText_ofSteps Shared.Installed valid keeps mute
    (Step.plan forms sampler) h
  rw [silent] at run
  rw [run] at text
  exact ⟨_, run, text⟩

def Options.unlogged (o : Options) : Options := { o with log := false }

theorem exists_silence_environment {env : Environment} (valid : (Silence.parse? env.silence).isOk)
    (o : Options) : ∃ silence, Silence.parse? (o.environment env).silence = .ok silence := by
  unfold Options.environment
  split
  · exact exists_silence valid
  · rw [Environment.silence, Environment.get?_set]
    exact ⟨_, Silence.parse?_one⟩

theorem conclude_eq (programName : String) (options : Options) (setting : Option String)
    (batch : Batch Encoder.Failure) (last : Shared) :
    conclude programName options setting batch last =
      { conclude programName options none { batch with printed := [] } last with
        stdout := batch.printedText ++
          (conclude programName options none { batch with printed := [] } last).stdout
        silence := setting } := by
  have silent : Batch.printedText { batch with printed := [] } = "" := rfl
  have emitted : emit options.outdir { batch with printed := [] } = emit options.outdir batch := rfl
  unfold conclude
  dsimp only
  rw [silent, emitted]
  split
  · simp
  · simp
  · split
    · simp
    · simp
      rfl

def Options.entries (o : Options) (launch : Launch) (shared : Shared) : List LogEntry :=
  match selectedForms? launch.characterNames shared.tree o with
  | .error _ => []
  | .ok forms =>
    (Batch.ofForms (encodeShared launch.toHost) (some "1") forms { rotate := o.rotate }
      shared).1.entries

/-- The log option puts entries in front of what is printed without it, and leaves the setting as
it is. -/
theorem runOptions_eq {launch : Launch} {shared : Shared} (h : shared.Installed)
    (valid : (Silence.parse? launch.environment.silence).isOk) (o : Options) :
    ∃ silence, Silence.parse? (o.environment launch.environment).silence = .ok silence ∧
      runOptions o launch shared =
        { runOptions o.unlogged launch shared with
          stdout := silence.print (o.unlogged.entries launch shared) ++
            (runOptions o.unlogged launch shared).stdout
          silence := (o.environment launch.environment).silence } := by
  obtain ⟨silence, parsed⟩ := exists_silence_environment valid o
  refine ⟨silence, parsed, ?_⟩
  -- Both runs are compared with the generation under the host as it is and a silent log.
  have selected : selectedForms? launch.characterNames shared.tree o.unlogged =
      selectedForms? launch.characterNames shared.tree o := rfl
  have unlogged : (o.unlogged.environment launch.environment).silence = some "1" :=
    Environment.get?_set _ _ _
  unfold runOptions Options.entries
  dsimp only
  rw [selected, unlogged]
  cases selectedForms? launch.characterNames shared.tree o with
  | error e => simp [Silence.print]
  | ok forms =>
    obtain ⟨printed, run, text⟩ := ofForms_of_installed h parsed forms { rotate := o.rotate }
      { launch.toHost with environment := o.environment launch.environment } launch.toHost
    obtain ⟨nothing, silent, blank⟩ := ofForms_of_installed h Silence.parse?_one forms
      { rotate := o.rotate }
      { launch.toHost with environment := o.unlogged.environment launch.environment } launch.toHost
    have rotate : o.unlogged.rotate = o.rotate := rfl
    simp only [rotate, run, silent]
    rw [conclude_eq _ o, conclude_eq _ o.unlogged]
    have noText : Text.concat nothing = "" := by simpa [Silence.print] using blank
    simp only [Batch.printedText, text, noText, String.empty_append]
    rfl

/-- Two runs with the same end and the same files, whose logs give the same entries in front of
the same text. Each prints those that the setting it left behind does not silence. -/
structure DifferInLog (first second : Run) (entries : List LogEntry) (line : String) : Prop where
  ending : first.ending = second.ending
  stderr : first.stderr = second.stderr
  shared : first.shared = second.shared
  stdout : ∀ r ∈ [first, second], ∃ silence, Silence.parse? r.silence = .ok silence ∧
    r.stdout = silence.print entries ++ line

theorem differInLog_of_same (common : Run) {setting other : Option String}
    {silence otherSilence : Silence} (parsed : Silence.parse? setting = .ok silence)
    (otherParsed : Silence.parse? other = .ok otherSilence) (entries : List LogEntry) :
    DifferInLog
      { common with stdout := silence.print entries ++ common.stdout, silence := setting }
      { common with stdout := otherSilence.print entries ++ common.stdout, silence := other }
      entries common.stdout where
  ending := rfl
  stderr := rfl
  shared := rfl
  stdout := by simpa using And.intro ⟨silence, parsed, rfl⟩ ⟨otherSilence, otherParsed, rfl⟩

section Generated

variable {args : List String} {launch : Launch} {shared last : Shared} {options : Options}
  {forms : List Form} {batch : Batch Failure}

theorem Generated.log_eq (generated : Generated args launch shared options forms batch last)
    (h : shared.Installed) {silence : Silence}
    (parsed : Silence.parse? (options.environment launch.environment).silence = .ok silence) :
    options.unlogged.entries launch shared = batch.entries ∧
      batch.printedText = silence.print batch.entries := by
  obtain ⟨printed, run, text⟩ := ofForms_of_installed h parsed forms { rotate := options.rotate }
    { launch.toHost with environment := options.environment launch.environment } launch.toHost
  have performed := generated.performed
  dsimp only at performed
  rw [run, Prod.mk.injEq] at performed
  obtain ⟨rfl, -⟩ := performed
  have selected : selectedForms? launch.characterNames shared.tree options.unlogged = .ok forms :=
    generated.selected
  rw [Options.entries, selected]
  exact ⟨rfl, text⟩

theorem Generated.summary_eq (generated : Generated args launch shared options forms batch last)
    (h : shared.Installed) (valid : (Silence.parse? launch.environment.silence).isOk)
    (ending : (run args launch shared).ending = .exit 0) :
    ∃ files, (runOptions options.unlogged launch shared).stdout =
      summary batch.fixtures.length files batch.skips.length batch.failures.length := by
  obtain ⟨silence, parsed, same⟩ := runOptions_eq h valid options
  obtain ⟨entries, text⟩ := generated.log_eq h parsed
  have concluded := generated.run_eq
  rw [concluded] at ending
  obtain ⟨_, files, _, _, stdout, _⟩ := conclude_of_exit_zero ending
  have run_options : run args launch shared = runOptions options launch shared := by
    simp only [run, generated.parsed]
  rw [← concluded, run_options, same, text, entries] at stdout
  exact ⟨files, (String.append_right_inj _).mp stdout⟩

end Generated

theorem differInLog_of_halt {launch : Launch}
    (valid : (Silence.parse? launch.environment.silence).isOk)
    {first second : List String} {halt : Halt} (parsed : Options.parse first = .error halt)
    (same : Options.parse second = .error halt) (shared : Shared) :
    DifferInLog (run first launch shared) (run second launch shared) []
      (run first launch shared).stdout := by
  obtain ⟨silence, ok⟩ := exists_silence valid
  have equal : run second launch shared = run first launch shared := by
    simp only [run, parsed, same]
  have kept : (run first launch shared).silence = launch.environment.silence := by
    cases halt <;> simp only [run, parsed]
  rw [equal]
  refine ⟨rfl, rfl, rfl, fun r mem => ?_⟩
  obtain rfl : r = run first launch shared := by simpa using mem
  exact ⟨silence, kept ▸ ok, by simp [Silence.print]⟩

theorem runs_differ_in_log {launch : Launch} {shared : Shared} (h : shared.Installed)
    (valid : (Silence.parse? launch.environment.silence).isOk) {first second : List String}
    (alike : (Options.parse first).map Options.unlogged =
      (Options.parse second).map Options.unlogged) :
    ∃ entries line, DifferInLog (run first launch shared) (run second launch shared) entries line ∧
      ∀ options forms batch last, Generated first launch shared options forms batch last →
        entries = batch.entries ∧ ((run first launch shared).ending = .exit 0 →
          ∃ files, line = summary batch.fixtures.length files batch.skips.length
            batch.failures.length) := by
  cases parsed : Options.parse first with
  | error halt =>
    have same : Options.parse second = .error halt := by
      cases other : Options.parse second <;> simp_all [Except.map]
    refine ⟨_, _, differInLog_of_halt valid parsed same shared, ?_⟩
    intro options forms batch last generated
    cases parsed.symm.trans generated.parsed
  | ok options =>
    cases other : Options.parse second with
    | error halt => simp [parsed, other, Except.map] at alike
    | ok others =>
      have same : others.unlogged = options.unlogged := by
        simpa [parsed, other, Except.map, eq_comm] using alike
      obtain ⟨silence, ok, here⟩ := runOptions_eq h valid options
      obtain ⟨otherSilence, otherOk, there⟩ := runOptions_eq h valid others
      have first_eq : run first launch shared = runOptions options launch shared := by
        simp only [run, parsed]
      have second_eq : run second launch shared = runOptions others launch shared := by
        simp only [run, other]
      have differ := differInLog_of_same (runOptions options.unlogged launch shared)
        ok otherOk (options.unlogged.entries launch shared)
      rw [← here, ← same, ← there, ← first_eq, ← second_eq, same] at differ
      refine ⟨_, _, differ, fun options' forms batch last generated => ?_⟩
      obtain rfl : options = options' := Except.ok.inj (parsed.symm.trans generated.parsed)
      exact ⟨(generated.log_eq h ok).1, generated.summary_eq h valid⟩

/-- The log has no influence on what is generated. Two runs of a generator under settings that
can be read have the same records and the same end, and print the log as far as it is not
silenced; two runs of the program that differ in the log option alone leave the same files. -/
theorem logging_never_influences_generation :
    (∀ {σ φ : Type} (encode : Encode σ φ) (forms : List Form) (sampler : Sampler) (s : σ)
        (setting other : Option String) (silence otherSilence : Silence),
      Silence.parse? setting = .ok silence → Silence.parse? other = .ok otherSilence →
      let first := Batch.ofForms encode setting forms sampler s
      let second := Batch.ofForms encode other forms sampler s
      let silent := Batch.ofForms encode (some "1") forms sampler s
      let unset := Batch.ofForms encode none forms sampler s
      first.1.fixtures = second.1.fixtures ∧ first.1.failures = second.1.failures ∧
      first.1.skips = second.1.skips ∧ first.1.stop = second.1.stop ∧ first.2 = second.2 ∧
      first.1.printed = List.zipWith (· ++ ·) silent.1.printed
        (first.1.outcomes.map (·.logText silence) ++ [""]) ∧
      ((∀ inst s, (encode inst s).2.1 = "") →
        unset.1.printedText = Text.concat (unset.1.entries.map LogEntry.text) ∧
        first.1.printedText = Text.concat
          ((unset.1.entries.filter fun e => ! silence e.kind).map LogEntry.text))) ∧
    (∀ (launch : Launch) (shared : Shared) (first second : List String), shared.Installed →
      (Silence.parse? launch.environment.silence).isOk →
      (Options.parse first).map Options.unlogged = (Options.parse second).map Options.unlogged →
      ∃ entries line,
        DifferInLog (run first launch shared) (run second launch shared) entries line ∧
        ∀ options forms batch last, Generated first launch shared options forms batch last →
          entries = batch.entries ∧ ((run first launch shared).ending = .exit 0 →
            ∃ files, line = summary batch.fixtures.length files batch.skips.length
              batch.failures.length)) ∧
    ∀ args, Options.parse ("-L" :: args) = (Options.parse args).map Options.logging := by
  refine ⟨?_, fun _ _ _ _ h valid alike => runs_differ_in_log h valid alike, parse_log_cons⟩
  intro σ φ encode forms sampler s setting other silence otherSilence valid otherValid first
    second silent unset
  have unsetValid : Silence.parse? none = .ok fun _ => false := rfl
  obtain ⟨outcomes, stop, state⟩ :=
    Batch.ofForms_congr_setting valid otherValid encode forms sampler s
  have unsetOutcomes : first.1.outcomes = unset.1.outcomes :=
    (Batch.ofForms_congr_setting valid unsetValid encode forms sampler s).1
  have printed : first.1.printed = List.zipWith (· ++ ·) silent.1.printed
      (silent.1.outcomes.map (·.logText silence) ++ [""]) :=
    congrArg (fun run : Batch φ × σ => run.1.printed)
      (Batch.ofForms_eq_of_silenced valid encode forms sampler s)
  have silentOutcomes : first.1.outcomes = silent.1.outcomes :=
    (Batch.ofForms_congr_setting valid Silence.parse?_one encode forms sampler s).1
  refine ⟨congrArg (List.filterMap Outcome.fixture?) outcomes,
    congrArg (List.filterMap Outcome.failure?) outcomes,
    congrArg (List.filterMap Outcome.skip?) outcomes, stop, state, silentOutcomes ▸ printed,
    fun mute => ⟨?_, ?_⟩⟩
  · have text := Batch.printedText_ofForms unsetValid mute forms sampler s
    simpa [Silence.print] using text
  · have text := Batch.printedText_ofForms valid mute forms sampler s
    have entries : first.1.entries = unset.1.entries :=
      congrArg (List.filterMap Outcome.entry?) unsetOutcomes
    rw [← entries]
    exact text

/-- The log of a skip and four refusals, of which a setting prints the skip; and a run that finds
no list of instructions, with the log option and without it. -/
theorem logging_never_influences_generation_of_skip :
    let broadcast : Record := { intel := "VADDPS xmm1, m32bcst", go := "VADDPS M, X1" }
    let mask : Record :=
      { intel := "KNOTQ k1, k2", go := "KNOTQ K2, K1", encoding := "VEX.L0.0F.W1 44 /r" }
    let forms := broadcast.forms ++ mask.forms
    let encode : Encode Unit Unit := fun _ s => (.refused ⟨.requestConversion, none⟩, "", s)
    let library : Library :=
      { opcode := fun _ => 1, register := fun _ => 9, converts := fun _ => true
        encode := fun _ => .ok [0x90] }
    let launch : Launch :=
      { environment := [], accountHome := none, builder := fun _ _ => .ok library
        programName := "x86asmtest", columns := 80, characterNames := Pattern.asciiNames }
    let shared : Shared := { engine := some (library, .start) }
    (∀ inst s, (encode inst s).2.1 = "") ∧
      (Batch.ofForms encode none forms {} ()).1.skips.length = 1 ∧
      (Batch.ofForms encode none forms {} ()).1.failures.length = 4 ∧
      (Batch.ofForms encode (some "!skip_case") forms {} ()).1.printedText =
        "SKIPPED(VADDPS xmm1, m32bcst): no arguments for m32bcst\n" ∧
      shared.Installed ∧
      (run ["-L", "x.csv"] launch shared).shared = (run ["x.csv"] launch shared).shared := by
  intro broadcast mask forms encode library launch shared
  have parsed : Silence.parse? (some "!skip_case") =
      .ok fun kind => decide (kind ≠ .skippedForm) := by
    have refined : Silence.parse? (some "!skip_case") =
        .ok (Silence.refine (fun _ => true) ⟨false, "skip_case"⟩) := by cbv
    rw [refined]
    congr
    funext kind
    cases kind <;> cbv
  have installed : shared.Installed := ⟨_, rfl⟩
  obtain ⟨generator, program, option⟩ := logging_never_influences_generation
  have printed := (generator encode forms {} () _ none _ _ parsed rfl).2.2.2.2.2.2 fun _ _ => rfl
  have alike : (Options.parse ["-L", "x.csv"]).map Options.unlogged =
      (Options.parse ["x.csv"]).map Options.unlogged := by
    rw [option]
    cases Options.parse ["x.csv"] <;> rfl
  obtain ⟨_, _, differ, _⟩ := program launch shared _ _ installed (by decide +kernel) alike
  refine ⟨fun _ _ => rfl, by decide +kernel, by decide +kernel, ?_, installed, differ.shared⟩
  rw [printed.2]
  decide +kernel

end CommandLine

end AsmFixtures
