import AsmFixtures.CommandLine.Run
import AsmFixtures.Proofs.Batch.Accounting
import AsmFixtures.Proofs.Batch.Interruption
import AsmFixtures.Proofs.Listing

/-! What a run of the program leaves behind. Up to the end of the generation it touches no
file: all that encoding does to the tree is to make directories. A generation that stopped
therefore leaves every file as it was. One that came to its end is followed by the files of
its groups and the report, all in one directory, and the printed counts are those of what was
written. -/

namespace AsmFixtures

namespace Encoder.Shared

theorem files_build (host : Host) (s : Shared) :
    (s.build host).2.2.tree.files = s.tree.files := by
  have kept := FileWork.keepsFiles_ensureDirectory host.plan.directory s.tree
  unfold build
  dsimp only
  split
  · rename_i made
    rw [made] at kept
    exact kept
  · rename_i made
    rw [made] at kept
    split <;> exact kept

theorem files_obtain (host : Host) (s : Shared) :
    (s.obtain host).2.2.tree.files = s.tree.files := by
  have kept := files_build host s
  unfold obtain
  split
  · rfl
  · split
    · rename_i built
      rw [built] at kept
      exact kept
    · rename_i built
      rw [built] at kept
      exact kept

theorem files_encode (host : Host) (inst : Instruction) (s : Shared) :
    (s.encode host inst).2.2.tree.files = s.tree.files := by
  have kept := files_obtain host s
  unfold encode
  split
  · rename_i got
    rw [got] at kept
    exact kept
  · rename_i got
    rw [got] at kept
    exact kept

end Encoder.Shared

namespace Batch

variable {σ φ : Type} {encode : Encode σ φ} {setting : Option String}

theorem skipped_of_finished {forms : List Form} (produced : ∀ f ∈ forms, f ∈ f.record.forms)
    {sampler : Sampler} {s : σ}
    (finished : (ofForms encode setting forms sampler s).1.stop = none) :
    (ofForms encode setting forms sampler s).1.skips.map SkippedForm.form =
      forms.filter fun f => f.Skipped := by
  rw [ofForms_eq_ofSteps_plan] at finished ⊢
  have sound : ∀ step ∈ Step.plan forms sampler, step.Sound :=
    fun step mem => sound_of_produced produced mem
  rcases ofSteps_cases encode setting sound s with
    ⟨_, all⟩ | ⟨_, _, _, _, _, _, _, _, stopped⟩
  · exact skipped_of_accounts (accounts_of_recordsAll all)
  · cases stopped.symm.trans finished

end Batch

namespace CommandLine

theorem files_encodeShared (host : Encoder.Host) (inst : Instruction) (s : Encoder.Shared) :
    (encodeShared host inst s).2.2.tree.files = s.tree.files := by
  have kept := Encoder.Shared.files_encode host inst s
  unfold encodeShared
  split
  all_goals
    rename_i reply
    rw [reply] at kept
    exact kept

theorem produced_of_selectedForms? {names : Pattern.CharacterNames} {tree : FileTree}
    {options : Options} {forms : List Form} (h : selectedForms? names tree options = .ok forms) :
    ∀ f ∈ forms, f ∈ f.record.forms := by
  obtain ⟨text, _, h⟩ := bind_eq_ok.mp h
  obtain ⟨database, _, h⟩ := bind_eq_ok.mp h
  obtain ⟨pattern, _, h⟩ := bind_eq_ok.mp (mapError_eq_ok.mp h)
  cases h
  intro f mem
  obtain ⟨record, _, here⟩ := List.mem_flatMap.mp mem
  rw [Form.record_of_mem_forms here]
  exact here

/-- A command line that is accepted, the forms that it selects from what its list of
instructions holds, and what the run of these forms leaves. -/
structure Generated (args : List String) (launch : Launch) (shared : Encoder.Shared)
    (options : Options) (forms : List Form) (batch : Batch Encoder.Failure)
    (last : Encoder.Shared) : Prop where
  parsed : Options.parse args = .ok options
  selected : selectedForms? launch.characterNames shared.tree options = .ok forms
  performed :
    let environment := options.environment launch.environment
    Batch.ofForms (encodeShared { launch.toHost with environment := environment })
      environment.silence forms { rotate := options.rotate } shared = (batch, last)

section Generated

variable {args : List String} {launch : Launch} {shared last : Encoder.Shared}
  {options : Options} {forms : List Form} {batch : Batch Encoder.Failure}

theorem Generated.run_eq (h : Generated args launch shared options forms batch last) :
    run args launch shared =
      conclude launch.programName options (options.environment launch.environment).silence
        batch last := by
  have performed := h.performed
  dsimp only at performed
  simp only [run, runOptions, h.parsed, h.selected, performed]

theorem shared_of_not_generated
    (h : ∀ options forms batch last, ¬ Generated args launch shared options forms batch last) :
    (run args launch shared).shared = shared := by
  unfold run
  cases parsed : Options.parse args with
  | error halt => cases halt <;> rfl
  | ok options =>
    dsimp only
    unfold runOptions
    dsimp only
    cases selected : selectedForms? launch.characterNames shared.tree options with
    | error e => rfl
    | ok forms => exact absurd ⟨parsed, selected, rfl⟩ (h options forms _ _)

theorem Generated.files_eq (h : Generated args launch shared options forms batch last) :
    last.tree.files = shared.tree.files := by
  have performed := h.performed
  dsimp only at performed
  rw [Batch.ofForms_eq_ofSteps_plan] at performed
  obtain rfl := congrArg Prod.snd performed
  exact Batch.kept_ofSteps _ (·.tree.files) (files_encodeShared _) _ shared

theorem Generated.skips_eq (h : Generated args launch shared options forms batch last)
    (finished : batch.stop = none) :
    batch.skips.map SkippedForm.form = forms.filter fun f => f.Skipped := by
  obtain rfl := congrArg Prod.fst h.performed
  exact Batch.skipped_of_finished (produced_of_selectedForms? h.selected) finished

end Generated

def written (directory : Place) (batch : Batch Encoder.Failure) : List (Place × String) :=
  Listing.placed directory (Listing.groups batch.lines) ++
    [(directory ++ ["report.txt"], batch.report)]

theorem mem_fst_written {directory place : Place} {batch : Batch Encoder.Failure} :
    place ∈ (written directory batch).map Prod.fst ↔
      (∃ g ∈ Listing.groupNames batch.lines, place = directory ++ [g ++ ".s"]) ∨
        place = directory ++ ["report.txt"] := by
  simp [written, Listing.fst_placed, Listing.groups, eq_comm]

theorem nodup_written (directory : Place) (batch : Batch Encoder.Failure) :
    ((written directory batch).map Prod.fst).Nodup := by
  rw [written, List.map_append, List.nodup_append]
  refine ⟨Listing.nodup_fst_placed directory batch.lines, List.nodup_singleton _, ?_⟩
  intro place mem report here same
  rw [Listing.fst_placed] at mem
  obtain ⟨group, _, rfl⟩ := List.mem_map.mp mem
  obtain rfl := List.mem_singleton.mp here
  have ends := congrArg (fun place => place.getLast?.map fun s => s.toList.getLast?) same
  simp at ends

theorem report_eq (batch : Batch Encoder.Failure) :
    batch.report = "# skipped forms: " ++ toString batch.skips.length ++ "\n" ++
      Text.concat (batch.skips.map fun s => s.line.text) ++
      "# failed combinations: " ++ toString batch.failures.length ++ "\n" ++
      Text.concat (batch.failures.map fun f => f.line.text) := by
  unfold Batch.report Report.text
  rw [List.length_map, List.length_map, List.map_map, List.map_map]
  simp only [Function.comp_def]

/-- A tree with the files of a finished generation in a directory, and all other files as they
were before. -/
structure Emitted (directory : Place) (batch : Batch Encoder.Failure) (before after : FileTree) :
    Prop where
  groups : ∀ g ∈ Listing.groupNames batch.lines, after.text? (directory ++ [g ++ ".s"]) =
    some (Listing.header g ++
      Text.concat ((Listing.ofGroup g batch.lines).map Listing.Line.text) ++ Listing.footer)
  report : after.text? (directory ++ ["report.txt"]) =
    some ("# skipped forms: " ++ toString batch.skips.length ++ "\n" ++
      Text.concat (batch.skips.map fun s => s.line.text) ++
      "# failed combinations: " ++ toString batch.failures.length ++ "\n" ++
      Text.concat (batch.failures.map fun f => f.line.text))
  others : ∀ place, place ≠ directory ++ ["report.txt"] →
    (∀ g ∈ Listing.groupNames batch.lines, place ≠ directory ++ [g ++ ".s"]) →
    after.text? place = before.text? place

theorem emitted_putAll (directory : Place) (batch : Batch Encoder.Failure) {before made : FileTree}
    (kept : made.files = before.files) :
    Emitted directory batch before (made.putAll (written directory batch)) where
  groups g mem := FileTree.text?_putAll_of_mem (nodup_written directory batch)
    (List.mem_append_left _ (Listing.mem_placed mem)) made
  report := by
    rw [← report_eq]
    exact FileTree.text?_putAll_of_mem (nodup_written directory batch)
      (List.mem_append_right _ List.mem_cons_self) made
  others place report groups := by
    have untouched : place ∉ (written directory batch).map Prod.fst := by
      intro mem
      rcases mem_fst_written.mp mem with ⟨g, named, same⟩ | same
      · exact groups g named same
      · exact report same
    rw [FileTree.text?_putAll_of_not_mem untouched, FileTree.text?, FileTree.text?, kept]

/-- Groups and report are written behind each other, so the directory of the report is that
of all files. -/
theorem emit_eq_ok {outdir : String} {batch : Batch Encoder.Failure} {t after : FileTree}
    {count : Nat} (h : (emit outdir batch).runOn t = (.ok count, after)) :
    count = (Listing.groupNames batch.lines).length ∧
      ((∀ g ∈ Listing.groupNames batch.lines, '/' ∉ g.toList) →
        ∃ made directory, (FileWork.ensureDirectory outdir).runOn t = (.ok (), made) ∧
          after.find? outdir = .ok (directory, none) ∧
          after = made.putAll (written directory batch)) := by
  obtain ⟨paths, between, listed, h⟩ := FileWork.runOn_bind_eq_ok.mp h
  obtain ⟨_, last, reported, h⟩ := FileWork.runOn_bind_eq_ok.mp h
  obtain ⟨_, made, ensured, grouped⟩ := FileWork.runOn_bind_eq_ok.mp listed
  cases h
  refine ⟨(Listing.length_of_writeGroups grouped).trans (Listing.length_groups _), ?_⟩
  intro plain
  have plainGroups : ∀ g ∈ Listing.groups batch.lines, '/' ∉ g.1.toList := by
    intro g mem
    obtain ⟨name, here, rfl⟩ := List.mem_map.mp mem
    exact plain name here
  -- Only the report is sure to be written, so the directory is taken from its path; writing
  -- keeps the directories, so the groups went to the same one.
  have plainReport : '/' ∉ "report.txt".toList := by decide
  obtain ⟨same, placed⟩ := Listing.writeGroups_eq_ok plainGroups grouped
  obtain ⟨directory, _, reached, _, rfl⟩ := FileTree.write?_eq_ok (FileWork.write_eq_ok.mp reported)
  obtain ⟨rfl, walked⟩ := FileTree.walk_of_approach_join plainReport reached
  have listing := placed directory (FileTree.walk_congr same walked)
  have nonempty : outdir.isEmpty = false := by
    by_contra empty
    obtain rfl : outdir = "" := by simpa using empty
    obtain ⟨e, failed⟩ := FileWork.not_ensureDirectory_empty t
    cases ensured.symm.trans failed
  have still : (between.put (directory ++ ["report.txt"]) batch.report).approach
      (Path.join outdir "report.txt") = .ok (directory, "report.txt") :=
    FileTree.approach_congr (FileTree.directories_put between _ _).symm reached
  refine ⟨made, directory, ensured, FileTree.find?_of_approach_join plainReport nonempty still, ?_⟩
  rw [listing, written, FileTree.putAll, FileTree.putAll, List.foldl_append]
  rfl

variable (programName : String)

theorem shared_conclude_of_stop (options : Options) (silence : Option String)
    {batch : Batch Encoder.Failure} (stopped : batch.stop ≠ none) (last : Encoder.Shared) :
    (conclude programName options silence batch last).shared = last := by
  unfold conclude
  dsimp only
  split
  · rfl
  · rfl
  · exact absurd ‹_› stopped

theorem ending_conclude_of_finished (options : Options) (silence : Option String)
    {batch : Batch Encoder.Failure} (finished : batch.stop = none) (last : Encoder.Shared) :
    (conclude programName options silence batch last).ending = .exit 0 ∨
      ∃ cause,
        (conclude programName options silence batch last).ending = .raised (.file cause) := by
  unfold conclude
  rw [finished]
  dsimp only
  split
  · exact .inr ⟨_, rfl⟩
  · exact .inl rfl

variable {programName}

theorem conclude_of_exit_zero {options : Options} {silence : Option String}
    {batch : Batch Encoder.Failure} {last : Encoder.Shared}
    (h : (conclude programName options silence batch last).ending = .exit 0) :
    batch.stop = none ∧ ∃ count after,
      (emit options.outdir batch).runOn last.tree = (.ok count, after) ∧
      (conclude programName options silence batch last).stdout = batch.printedText ++
        summary batch.fixtures.length count batch.skips.length batch.failures.length ∧
      (conclude programName options silence batch last).shared.tree = after := by
  unfold conclude at h ⊢
  dsimp only at h ⊢
  split at h
  · cases h
  · cases h
  · rename_i finished
    rw [finished]
    split at h
    · cases h
    · rename_i count after emitted
      rw [emitted]
      exact ⟨rfl, count, after, rfl, rfl, rfl⟩

theorem generated_of_exit_zero {args : List String} {launch : Launch}
    {shared : Encoder.Shared} {options : Options} (parsed : Options.parse args = .ok options)
    (h : (run args launch shared).ending = .exit 0) :
    ∃ forms batch last, Generated args launch shared options forms batch last := by
  cases selected : selectedForms? launch.characterNames shared.tree options with
  | ok forms => exact ⟨forms, _, _, parsed, selected, rfl⟩
  | error e =>
    simp only [run, parsed, runOptions, selected] at h
    cases h

theorem run_emits_all_or_nothing (args : List String) (launch : Launch)
    (shared : Encoder.Shared) :
    let result := run args launch shared
    ((∀ options forms batch last, Generated args launch shared options forms batch last →
        batch.stop ≠ none) → result.shared.tree.files = shared.tree.files) ∧
      (∀ options forms batch last cause, Generated args launch shared options forms batch last →
        batch.stop = some (.encoder (.config cause)) → result.ending = .exit 1 ∧
          result.stderr =
            launch.programName ++ ": configuration error: " ++ cause.message ++ "\n") ∧
      (∀ options forms batch last, Generated args launch shared options forms batch last →
        batch.stop = none →
          result.ending = .exit 0 ∨ ∃ cause, result.ending = .raised (.file cause)) ∧
      ∀ options, Options.parse args = .ok options → result.ending = .exit 0 →
        ∃ forms batch last, Generated args launch shared options forms batch last ∧
          batch.stop = none ∧
          let names := Listing.groupNames batch.lines
          (names.Nodup ∧
            ∀ g, g ∈ names ↔ ∃ f ∈ batch.fixtures, Cpuid.groupName f.cpuid = g) ∧
          batch.fixtures.length =
            (names.map fun g => (Listing.ofGroup g batch.lines).length).sum ∧
          batch.skips.map SkippedForm.form = (forms.filter fun f => f.Skipped) ∧
          result.stdout = batch.printedText ++ (toString batch.fixtures.length ++
            " fixtures in " ++ toString names.length ++ " files, " ++
            toString batch.skips.length ++ " forms skipped, " ++
            toString batch.failures.length ++ " combinations failed\n") ∧
          ((∀ g ∈ names, '/' ∉ g.toList) →
            ∃ directory, result.shared.tree.find? options.outdir = .ok (directory, none) ∧
              Emitted directory batch shared.tree result.shared.tree) := by
  intro result
  refine ⟨?_, ?_, ?_, ?_⟩
  · intro unfinished
    by_cases generated :
        ∃ options forms batch last, Generated args launch shared options forms batch last
    · obtain ⟨options, forms, batch, last, generated⟩ := generated
      have stopped := unfinished options forms batch last generated
      simp only [result, generated.run_eq, shared_conclude_of_stop _ _ _ stopped,
        generated.files_eq]
    · have same : result.shared = shared := shared_of_not_generated
        fun options forms batch last h => generated ⟨options, forms, batch, last, h⟩
      rw [same]
  · intro options forms batch last cause generated stopped
    rw [show result = _ from generated.run_eq, conclude, stopped]
    exact ⟨rfl, rfl⟩
  · intro options forms batch last generated finished
    rw [show result = _ from generated.run_eq]
    exact ending_conclude_of_finished _ options _ finished last
  · intro options parsed ending
    obtain ⟨forms, batch, last, generated⟩ := generated_of_exit_zero parsed ending
    have concluded : result = _ := generated.run_eq
    rw [concluded] at ending ⊢
    obtain ⟨finished, count, after, emitted, stdout, tree⟩ := conclude_of_exit_zero ending
    obtain ⟨counted, placed⟩ := emit_eq_ok emitted
    refine ⟨forms, batch, last, generated, finished, ⟨Listing.nodup_groupNames _, ?_⟩, ?_, ?_,
      ?_, ?_⟩
    · intro g
      simp [Listing.mem_groupNames, Batch.lines, Listing.Line.group, Fixture.line]
    · rw [Listing.sum_length_ofGroup, Batch.lines, List.length_map]
    · exact generated.skips_eq finished
    · rw [stdout, counted]
      rfl
    · intro plain
      obtain ⟨made, directory, ensured, found, rfl⟩ := placed plain
      have kept := FileWork.keepsFiles_ensureDirectory options.outdir last.tree
      rw [ensured, generated.files_eq] at kept
      rw [tree]
      exact ⟨directory, found, emitted_putAll directory batch kept⟩

example :
    let launch : Launch :=
      { environment := [], accountHome := none, builder := fun _ _ => .error "no compiler"
        programName := "x86asmtest", columns := 80, characterNames := Pattern.asciiNames }
    let before : FileTree := { files := [(["x.csv"], "")] }
    (run ["-o", "out", "x.csv"] launch { tree := before }).shared.tree.files =
      [(["x.csv"], ""),
        (["out", "report.txt"], "# skipped forms: 0\n# failed combinations: 0\n")] := by
  decide +kernel

end CommandLine

end AsmFixtures
