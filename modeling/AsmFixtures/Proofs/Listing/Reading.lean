import AsmFixtures.Listing
import AsmFixtures.Proofs.Batch.Step
import AsmFixtures.Proofs.OperandClass.Words
import AsmFixtures.Proofs.Text.Hexadecimal
import AsmFixtures.Proofs.Text.Lines

/-! Reading a file back. A line of a file ends its assembler text with spaces up to a column and
sets a mark between two slashes and the machine code behind it. Nothing is escaped, and an opcode
may hold the mark's slashes. Still each line can be read in one way only: machine code has no
blank in it, so the last mark of a line is the one that was written, and no assembler text has a
line break or ends with a space. -/

namespace AsmFixtures

namespace Text.Chars

def cutLast? (needle s : List Char) : Option (List Char × List Char) :=
  (cut? needle.reverse s.reverse).map fun (behind, before) => (before.reverse, behind.reverse)

theorem cutLast?_append {c : Char} {back : List Char} (apart : c ∉ back)
    (front needle : List Char) :
    cutLast? (needle ++ [c]) (front ++ (needle ++ [c]) ++ back) = some (front, back) := by
  have reversed : c ∉ back.reverse := by simpa using apart
  have cut := cut?_append reversed needle.reverse front.reverse
  simp only [cutLast?, List.reverse_append, List.reverse_singleton, List.singleton_append]
  rw [cut, Option.map_some, List.reverse_reverse, List.reverse_reverse]

theorem trimEnd_append_spaces {s : List Char} (ending : ∀ c ∈ s.getLast?, isBlank c = false)
    (count : Nat) : trimEnd (s ++ List.replicate count ' ') = s := by
  have blank : ∀ c ∈ List.replicate count ' ', isBlank c = true := by
    intro c mem
    rw [List.eq_of_mem_replicate mem]
    rfl
  rw [trimEnd_append, if_pos ((trimEnd_eq_nil_iff _).mpr blank), trimEnd_of_ending ending]

end Text.Chars

namespace Listing

def mark : List Char := [' ', '/', '/', ' ']

def readLine? (line : String) : Option (String × String) :=
  match Text.Chars.cutLast? mark line.toList with
  | some ('\t' :: padded, hex) =>
    some (String.ofList (Text.Chars.trimEnd padded), String.ofList hex.dropLast)
  | _ => none

/-- The lines of a file between the header for a name and the footer. -/
def bodyLines (name text : String) : List String :=
  (Text.lines (String.ofList (text.toList.drop (header name).length))).dropLast

/-- An assembler text whose only blanks are spaces, none of them at its end, and machine code
without blanks. -/
structure Line.Readable (l : Line) : Prop where
  spaces : ∀ c ∈ l.asm.toList, Text.isBlank c = true → c = ' '
  ending : ∀ c ∈ l.asm.toList.getLast?, Text.isBlank c = false
  digits : ∀ c ∈ l.hex.toList, Text.isBlank c = false

namespace Line

variable {l : Line}

theorem toList_text (l : Line) :
    l.text.toList = ('\t' :: (l.asm.toList ++ List.replicate (commentColumn - l.asm.length) ' ')) ++
      mark ++ l.hex.toList ++ ['\n'] := by
  simp [text, Text.padEnd, mark]

theorem readLine?_text (h : l.Readable) : readLine? l.text = some (l.asm, l.hex) := by
  have apart : ' ' ∉ l.hex.toList ++ ['\n'] := by
    intro mem
    rcases List.mem_append.mp mem with digit | feed
    · have plain := h.digits ' ' digit
      cases plain
    · exact absurd (List.mem_singleton.mp feed) (by decide)
  have cut := Text.Chars.cutLast?_append apart
    ('\t' :: (l.asm.toList ++ List.replicate (commentColumn - l.asm.length) ' ')) [' ', '/', '/']
  rw [readLine?, toList_text, List.append_assoc, mark]
  simp only [List.cons_append, List.nil_append] at cut ⊢
  rw [cut]
  simp [Text.Chars.trimEnd_append_spaces h.ending]

theorem oneLine_text (h : l.Readable) :
    ∃ body, l.text.toList = body ++ ['\n'] ∧ Text.Chars.OneLine body := by
  have apart : ∀ c, Text.isBlank c = true → c ≠ ' ' → c ≠ '\t' →
      c ∉ ('\t' :: (l.asm.toList ++ List.replicate (commentColumn - l.asm.length) ' ')) ++
        mark ++ l.hex.toList := by
    intro c blank noSpace noTab mem
    have slash : Text.isBlank '/' = false := rfl
    simp only [mark, List.mem_append, List.mem_cons, List.mem_replicate, List.not_mem_nil] at mem
    have asm := h.spaces c
    have hex := h.digits c
    grind
  exact ⟨_, toList_text l, apart '\n' rfl (by decide) (by decide),
    apart '\r' rfl (by decide) (by decide)⟩

end Line

theorem lines_append_text {l : Line} (h : l.Readable) (rest : List Char) :
    Text.Chars.lines (Text.Chars.unifyLineEnds (l.text.toList ++ rest)) =
      l.text.toList :: Text.Chars.lines (Text.Chars.unifyLineEnds rest) := by
  obtain ⟨body, whole, oneLine⟩ := l.oneLine_text h
  have feed : Text.Chars.unifyLineEnds ('\n' :: rest) = '\n' :: Text.Chars.unifyLineEnds rest := by
    simp [Text.Chars.unifyLineEnds_cons]
  rw [whole, List.append_assoc, Text.Chars.unifyLineEnds_append oneLine.2, List.singleton_append,
    feed, Text.Chars.lines_append oneLine.1]

theorem lines_append_texts {lines : List Line} (readable : ∀ l ∈ lines, l.Readable)
    (rest : List Char) :
    Text.Chars.lines (Text.Chars.unifyLineEnds
        ((Text.concat (lines.map Line.text)).toList ++ rest)) =
      (lines.map fun l => l.text.toList) ++
        Text.Chars.lines (Text.Chars.unifyLineEnds rest) := by
  induction lines with
  | nil => simp
  | cons l others ih =>
    obtain ⟨first, later⟩ := List.forall_mem_cons.mp readable
    rw [List.map_cons, Text.concat_cons, String.toList_append, List.append_assoc,
      lines_append_text first, ih later, List.map_cons, List.cons_append]

theorem bodyLines_fileText (name : String) {lines : List Line}
    (readable : ∀ l ∈ lines, l.Readable) :
    bodyLines name (fileText name lines) = lines.map Line.text := by
  have body : (fileText name lines).toList.drop (header name).length =
      (Text.concat (lines.map Line.text)).toList ++ footer.toList := by
    rw [fileText, String.append_assoc, String.toList_append, String.toList_append,
      ← String.length_toList, List.drop_left]
  have last : Text.Chars.lines (Text.Chars.unifyLineEnds footer.toList) = [footer.toList] := by
    rw [show footer.toList = ['\t', 'R', 'E', 'T', '\n'] by simp [footer]]
    rfl
  rw [bodyLines, Text.lines, body, String.toList_ofList, lines_append_texts readable, last]
  simp [Function.comp_def]

theorem fileText_congr (name : String) {lines others : List Line}
    (same : lines.map (fun l => (l.asm, l.hex)) = others.map fun l => (l.asm, l.hex)) :
    fileText name lines = fileText name others := by
  have texts := congrArg (List.map fun p : String × String => Line.text ⟨"", p.1, p.2⟩) same
  rw [List.map_map, List.map_map] at texts
  exact congrArg (header name ++ Text.concat · ++ footer) texts

theorem readLine?_bodyLines (name : String) {lines : List Line}
    (readable : ∀ l ∈ lines, l.Readable) :
    (bodyLines name (fileText name lines)).map readLine? =
      lines.map fun l => some (l.asm, l.hex) := by
  rw [bodyLines_fileText name readable, List.map_map]
  refine List.map_congr_left fun l mem => ?_
  rw [Function.comp_apply, Line.readLine?_text (readable l mem)]

end Listing

namespace Fixture

/-- The fixture is one that a run has left, of any forms, with an encoder that answers with
hexadecimal numbers. -/
def Generated (f : Fixture) : Prop :=
  ∃ (σ φ : Type) (encode : Encode σ φ) (setting : Option String) (forms : List Form)
    (sampler : Sampler) (s : σ),
    (∀ inst state hex, (encode inst state).1 = .encoded hex →
      ∀ c ∈ hex.toList, c ∈ Text.hexAlphabet) ∧
    f ∈ (Batch.ofForms encode setting forms sampler s).1.fixtures

theorem Generated.readable {f : Fixture} (h : f.Generated) : f.line.Readable := by
  obtain ⟨σ, φ, encode, setting, forms, sampler, s, hexadecimal, mem⟩ := h
  rw [Batch.ofForms_eq_ofSteps_plan] at mem
  obtain ⟨params, args, state, planned, named, asm, answer⟩ :=
    Batch.exists_attempt_of_mem_fixtures mem
  obtain ⟨_, goOpcode, _, go⟩ := Record.exists_opcodes named
  rw [Form.assembly, go, Option.getD_some] at asm
  have words : ∀ text ∈ args.map (·.goSyntax), Text.Chars.IsWord text.toList := by
    intro text mem
    obtain ⟨e, drawn, rfl⟩ := List.mem_map.mp mem
    obtain ⟨key, _, ofClass⟩ := exists_of_forall₂ (Step.attempted_of_mem_plan planned).entries drawn
    exact OperandClass.isWord_of_mem_domain ofClass
  obtain ⟨spaces, ending⟩ := GoSyntax.line_of_words (Text.isWord_of_firstWord? go) words
  rw [← asm] at spaces ending
  exact ⟨spaces, ending, fun c mem =>
    Text.not_isBlank_of_mem_hexAlphabet (hexadecimal _ _ _ answer c mem)⟩

theorem readable_lines {fixtures : List Fixture} (generated : ∀ f ∈ fixtures, f.Generated) :
    ∀ l ∈ fixtures.map line, l.Readable := by
  intro l mem
  obtain ⟨f, made, rfl⟩ := List.mem_map.mp mem
  exact (generated f made).readable

/-- A file can be read back. Its body has one line for each fixture, each line tells the assembler
text and the machine code of its fixture, and so two lists have one file under one name just when
they agree in both, place by place. -/
theorem file_reads_back (name : String) (fixtures others : List Fixture)
    (generated : ∀ f ∈ fixtures, f.Generated) (generated' : ∀ f ∈ others, f.Generated) :
    (Listing.bodyLines name (Listing.fileText name (fixtures.map line))).length =
        fixtures.length ∧
      (Listing.bodyLines name (Listing.fileText name (fixtures.map line))).map
          Listing.readLine? = fixtures.map (fun f => some (f.asm, f.hex)) ∧
      (Listing.fileText name (fixtures.map line) = Listing.fileText name (others.map line) ↔
        fixtures.map (fun f => (f.asm, f.hex)) = others.map fun f => (f.asm, f.hex)) := by
  have read : ∀ made : List Fixture, (∀ f ∈ made, f.Generated) →
      (Listing.bodyLines name (Listing.fileText name (made.map line))).map Listing.readLine? =
        made.map fun f => some (f.asm, f.hex) := by
    intro made all
    rw [Listing.readLine?_bodyLines name (readable_lines all), List.map_map]
    rfl
  refine ⟨?_, read fixtures generated, fun same => ?_, fun same => ?_⟩
  · rw [Listing.bodyLines_fileText name (readable_lines generated), List.length_map,
      List.length_map]
  · have pairs := read fixtures generated
    rw [same, read others generated'] at pairs
    have some_injective : Function.Injective (Option.some : String × String → _) :=
      Option.some_injective _
    refine List.map_injective_iff.mpr some_injective ?_
    simpa [Function.comp_def] using pairs.symm
  · exact Listing.fileText_congr name (by simpa [Function.comp_def, line] using same)

/-- An opcode that holds the slashes of the mark, another that is longer than the column, and a
second run for another processor. -/
theorem file_reads_back_of_slashes_in_opcode :
    let encode : Encode Unit Unit := fun _ s => (.encoded "c5f899", "", s)
    let short : Record := { intel := "KTEST k2", go := "K//TEST", cpuid := "AVX512F" }
    let long : Record :=
      { intel := "KTEST k2", go := "KTEST_UNDER_A_NAME_THAT_RUNS_PAST_THE_COMMENT_COLUMN" }
    let run := fun cpuid : String => (Batch.ofForms encode none
      [⟨{ short with cpuid := cpuid }, ["k2"]⟩, ⟨long, ["k2"]⟩] {} ()).1.fixtures
    (∀ f ∈ run "AVX512F", f.Generated) ∧ (∀ f ∈ run "AVX512DQ", f.Generated) ∧
      (Listing.bodyLines "avx" (Listing.fileText "avx" ((run "AVX512F").map line))).map
          Listing.readLine? =
        [some ("K//TEST K7", "c5f899"), some ("K//TEST K0", "c5f899"),
          some ("KTEST_UNDER_A_NAME_THAT_RUNS_PAST_THE_COMMENT_COLUMN K7", "c5f899"),
          some ("KTEST_UNDER_A_NAME_THAT_RUNS_PAST_THE_COMMENT_COLUMN K0", "c5f899")] ∧
      Listing.fileText "avx" ((run "AVX512F").map line) =
        Listing.fileText "avx" ((run "AVX512DQ").map line) := by
  intro encode short long run
  have hexadecimal : "c5f899".toList.all (Text.hexAlphabet.contains ·) = true := by decide +kernel
  have generated : ∀ cpuid, ∀ f ∈ run cpuid, f.Generated := by
    intro cpuid f mem
    refine ⟨_, _, encode, none, _, {}, (), fun _ _ hex answer c digit => ?_, mem⟩
    rw [← Verdict.encoded.inj answer] at digit
    simpa using List.all_eq_true.mp hexadecimal c digit
  obtain ⟨_, read, alike⟩ := file_reads_back "avx" (run "AVX512F") (run "AVX512DQ")
    (generated _) (generated _)
  exact ⟨generated _, generated _, read.trans (by decide +kernel), alike.mpr (by decide +kernel)⟩

end Fixture

end AsmFixtures
