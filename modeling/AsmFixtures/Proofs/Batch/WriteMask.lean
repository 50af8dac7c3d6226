import AsmFixtures.Proofs.Batch.Recording
import AsmFixtures.Proofs.Database.Printing
import AsmFixtures.Proofs.OperandClass.GoSyntax
import AsmFixtures.Proofs.OperandClass.Normal
import AsmFixtures.Proofs.OperandClass.Words

/-! Write masks. A masked operand takes two places in a form, its own and one for the mask. The
class at the place of the mask is not that of mask registers at large: its domain leaves K0 out,
which to an encoder means no mask. So whatever a sampler drew before, the argument behind that of a
masked operand is one of the other seven registers, and the assembler line names it at the mirrored
place, where a reader of the line finds it. -/

namespace AsmFixtures

namespace GoSyntax

open Text.Chars (IsWord)

/-- The operands of an assembler line: what stands between commas behind the first word. -/
def operands (line : String) : List String :=
  match Text.afterFirstWord? line with
  | none => []
  | some texts => (Text.split ',' texts).map Text.trim

theorem operands_intel (r : Record) : operands r.intel = r.intelArgs := rfl

theorem line_eq_trimEnd {opcode : String} (word : IsWord opcode.toList) {texts : List String}
    (words : ∀ text ∈ texts, IsWord text.toList) :
    line opcode texts = Text.trimEnd (opcode ++ " " ++ Text.join ", " texts.reverse) := by
  by_cases empty : texts = []
  · have dropped := Text.Chars.trimEnd_append_blank word
    simp [empty, line, Text.join, Text.Chars.join, Text.trimEnd, dropped]
  · have ending := (line_of_words word words).2
    have whole : line opcode texts = opcode ++ " " ++ Text.join ", " texts.reverse := by
      rw [line, if_neg (by simpa using empty)]
    rw [← whole, Text.trimEnd, Text.Chars.trimEnd_of_ending ending, String.ofList_toList]

theorem operands_line {opcode : String} (word : IsWord opcode.toList) {texts : List String}
    (words : ∀ text ∈ texts, IsWord text.toList) (plain : ∀ text ∈ texts, ',' ∉ text.toList) :
    operands (line opcode texts) = texts.reverse := by
  have tight : ∀ text ∈ texts.reverse, Text.Chars.Tight text.toList :=
    fun text mem => (words text (List.mem_reverse.mp mem)).tight
  have apart : ∀ text ∈ texts.reverse, ',' ∉ text.toList :=
    fun text mem => plain text (List.mem_reverse.mp mem)
  have several : texts.reverse ≠ [""] := by
    intro single
    have blank : "" ∈ texts := List.mem_reverse.mp (single ▸ List.mem_singleton_self "")
    exact (words "" blank).some rfl
  have printed : Record.intel { intel := line opcode texts, go := "" } =
      Text.trimEnd (opcode ++ " " ++ Text.join ", " texts.reverse) := line_eq_trimEnd word words
  have read := Record.intelOpcode?_and_intelArgs_of_printed word tight apart several printed
  rw [← read.2, ← operands_intel]

end GoSyntax

namespace OperandClass

def writeMasks : List String := ["K1", "K2", "K3", "K4", "K5", "K6", "K7"]

theorem normalize_maskToken (opcode : String) :
    normalize opcode "\x7bk\x7d" = "\x7bk\x7d" := by
  have kept : dropRounding "\x7bk\x7d" = "\x7bk\x7d" := by decide
  rw [normalize, kept, resolve_of_lookup_eq_none (by decide)]

theorem domain_maskToken : domain "\x7bk\x7d" = [7, 1, 2, 3, 4, 5, 6].map .mask := rfl

theorem exists_writeMask_of_mem_domain {e : Entry} (mem : e ∈ domain "\x7bk\x7d") :
    ∃ name ∈ writeMasks, e = .register name name := by
  have names : ∀ n ∈ ([7, 1, 2, 3, 4, 5, 6] : List Int), "K" ++ toString n ∈ writeMasks := by
    decide +kernel
  rw [domain_maskToken] at mem
  obtain ⟨n, listed, rfl⟩ := List.mem_map.mp mem
  exact ⟨_, names n listed, rfl⟩

theorem isWord_of_taken {keys : List String} {args : List Entry}
    (taken : List.Forall₂ (fun key e => e ∈ domain key) keys args) :
    ∀ text ∈ args.map (·.goSyntax), Text.Chars.IsWord text.toList := by
  intro text mem
  obtain ⟨e, inArgs, rfl⟩ := List.mem_map.mp mem
  obtain ⟨key, _, inDomain⟩ := exists_of_forall₂ taken inArgs
  exact isWord_of_mem_domain inDomain

end OperandClass

open OperandClass OperandText

/-- The write masks of an attempt stay with their operands. The line has as many operands as the
instruction has arguments. Behind the argument that was drawn for an alternative of a masked operand
comes a mask register that is not K0, and the line has its name as far from the other end. -/
structure MasksStay (form : Form) (inst : Instruction) (text : String) : Prop where
  count : (GoSyntax.operands text).length = inst.args.length
  behind : ∀ j operand, form.record.intelArgs[j]? = some operand → Masked operand →
    let place := position form.record.intelArgs j
    (∃ token e, form.args[place]? = some token ∧ token ∈ alternatives operand ∧
      e ∈ domain (OperandClass.normalize form.opcode token) ∧ inst.args[place]? = some e.argument) ∧
    ∃ name ∈ writeMasks, inst.args[place + 1]? = some (.reg name) ∧
      (GoSyntax.operands text)[inst.args.length - 1 - (place + 1)]? = some name

namespace Form

theorem args_instruction (f : Form) (params : List Param) (args : List Entry) :
    (f.instruction params args).args = args.map (·.argument) := rfl

variable {f : Form} {args : List Entry}

theorem getElem?_args_instruction (params : List Param) {i : Nat} {e : Entry}
    (here : args[i]? = some e) : (f.instruction params args).args[i]? = some e.argument := by
  rw [args_instruction, List.getElem?_map, here, Option.map_some]

theorem operands_assembly (named : f.record.Named)
    (taken : List.Forall₂ (fun key e => e ∈ domain key) f.keys args) :
    GoSyntax.operands (f.assembly args) = (args.map (·.goSyntax)).reverse := by
  obtain ⟨_, goOpcode, _, go⟩ := Record.exists_opcodes named
  rw [assembly, go, Option.getD_some]
  exact GoSyntax.operands_line (Text.isWord_of_firstWord? go) (isWord_of_taken taken)
    (plain_of_taken taken)

theorem getElem?_operands_assembly (named : f.record.Named)
    (taken : List.Forall₂ (fun key e => e ∈ domain key) f.keys args) {i : Nat} {e : Entry}
    (here : args[i]? = some e) :
    (GoSyntax.operands (f.assembly args))[args.length - 1 - i]? = some e.goSyntax := by
  obtain ⟨inside, _⟩ := List.getElem?_eq_some_iff.mp here
  have mirrored : args.length - 1 - i + i + 1 = (args.map (·.goSyntax)).length := by
    rw [List.length_map]
    omega
  rw [operands_assembly named taken, List.getElem?_reverse' mirrored, List.getElem?_map, here,
    Option.map_some]

theorem exists_entry_of_taken (taken : List.Forall₂ (fun key e => e ∈ domain key) f.keys args)
    {i : Nat} {token : String} (here : f.args[i]? = some token) :
    ∃ e ∈ domain (OperandClass.normalize f.opcode token), args[i]? = some e := by
  have key : f.keys[i]? = some (OperandClass.normalize f.opcode token) := by
    rw [keys, List.getElem?_map, here, Option.map_some, opcode]
  obtain ⟨e, at_i, mem⟩ := exists_getElem?_of_forall₂ taken.flip key
  exact ⟨e, mem, at_i⟩

theorem masksStay (produced : f ∈ f.record.forms) (named : f.record.Named)
    (taken : List.Forall₂ (fun key e => e ∈ domain key) f.keys args) (params : List Param) :
    MasksStay f (f.instruction params args) (f.assembly args) where
  count := by
    rw [operands_assembly named taken, args_instruction, List.length_reverse, List.length_map,
      List.length_map]
  behind j operand here masked := by
    obtain ⟨token, among, at_own, behind⟩ := Record.exists_token_of_mem_forms produced here
    obtain ⟨e, mem, own⟩ := exists_entry_of_taken taken at_own
    obtain ⟨mask, drawn, next⟩ := exists_entry_of_taken taken (behind masked)
    -- No alias turns the class of write masks into that of all mask registers.
    rw [normalize_maskToken] at drawn
    obtain ⟨name, writes, rfl⟩ := exists_writeMask_of_mem_domain drawn
    have shown := getElem?_operands_assembly named taken next
    refine ⟨⟨token, e, at_own, among, mem, getElem?_args_instruction params own⟩, name, writes,
      getElem?_args_instruction params next, ?_⟩
    rw [args_instruction, List.length_map]
    exact shown

end Form

theorem Database.exists_record_of_mem_forms {d : Database} {pattern : Option Pattern} {f : Form}
    (mem : f ∈ d.forms pattern) : ∃ r ∈ d.records, f ∈ r.forms := by
  obtain ⟨r, covered, made⟩ := List.mem_flatMap.mp mem
  exact ⟨r, (List.mem_filter.mp covered).1, made⟩

namespace Batch

/-- Write masks stay with their operands in every instruction that a run hands to its encoder, and
in the text of the same attempt. The texts are those of the fixtures and failures in their order;
an attempt that stops the run comes last and leaves neither. -/
theorem write_masks_stay_with_operands {σ φ : Type} (encode : Encode σ φ)
    (setting : Option String) (d : Database) (forms : List Form)
    (taken : ∀ f ∈ forms, ∃ r ∈ d.records, f ∈ r.forms) (sampler : Sampler) (s : σ) :
    let run := ofForms encode setting forms sampler s
    let tried := attempts encode setting (Step.plan forms sampler) s
    ofForms (recording encode) setting forms sampler (s, []) =
        (run.1, run.2, tried.map Attempt.instruction) ∧
      (∃ last : List String,
        tried.map Attempt.text = run.1.outcomes.filterMap Outcome.text? ++ last ∧
        last.length ≤ 1 ∧ (run.1.stop = none → last = [])) ∧
      ∀ a ∈ tried, a.form ∈ forms ∧ MasksStay a.form a.instruction a.text := by
  intro run tried
  have performed : run = ofSteps encode setting (Step.plan forms sampler) s :=
    ofForms_eq_ofSteps_plan encode setting forms sampler s
  rw [performed, ofForms_eq_ofSteps_plan]
  refine ⟨ofSteps_recording encode setting _ s [], exists_map_text_attempts encode setting _ s, ?_⟩
  intro a mem
  obtain ⟨planned, named⟩ := mem_steps_of_mem_attempts mem
  have attempted := Step.attempted_of_mem_plan planned
  obtain ⟨r, _, made⟩ := taken a.form attempted.mem
  have produced : a.form ∈ a.form.record.forms := by rwa [Form.record_of_mem_forms made]
  exact ⟨attempted.mem, Form.masksStay produced named attempted.entries a.params⟩

/-- The fifth attempt stops the run. Its second mask is the last argument and comes first in the
line. -/
theorem write_masks_stay_with_operands_of_two_masks :
    let broadcast : Record :=
      { intel := "VADDPS xmm1\x7bk1\x7d, m32bcst", go := "VADDPS M, K, X1", valid64 := "V" }
    let gather : Record :=
      { intel := "VGATHERDPD zmm1\x7bk1\x7d\x7bz\x7d, vm32y\x7bk2\x7d", go := "VGATHERDPD M, Z1"
        valid64 := "V" }
    let d : Database := ⟨[broadcast, gather]⟩
    let forms := d.forms none
    let encode : Encode Nat Unit := fun _ count =>
      (if count < 4 then .refused ⟨.requestConversion, none⟩ else .fatal (), "", count + 1)
    let tried := attempts encode (some "1") (Step.plan forms { rotate := true }) 0
    (∀ f ∈ forms, ∃ r ∈ d.records, f ∈ r.forms) ∧
      gather.intelArgs[1]? = some "vm32y\x7bk2\x7d" ∧ Masked "vm32y\x7bk2\x7d" ∧
      (ofForms (recording encode) (some "1") forms { rotate := true } (0, [])).2.2 =
        tried.map Attempt.instruction ∧
      ∃ a ∈ tried, a.text = "VGATHERDPD K1, (BP)(Y9*2), K7, Z8" ∧
        ∃ name ∈ writeMasks, a.instruction.args[3]? = some (.reg name) ∧
          (GoSyntax.operands a.text)[0]? = some name := by
  intro broadcast gather d forms encode tried
  have taken : ∀ f ∈ forms, ∃ r ∈ d.records, f ∈ r.forms :=
    fun _ mem => Database.exists_record_of_mem_forms mem
  have second : gather.intelArgs[1]? = some "vm32y\x7bk2\x7d" := by decide +kernel
  have masked : Masked "vm32y\x7bk2\x7d" := by decide +kernel
  have place : position gather.intelArgs 1 = 2 := by decide +kernel
  have stopping : ∃ a ∈ tried, a.text = "VGATHERDPD K1, (BP)(Y9*2), K7, Z8" ∧
      a.form.record = gather ∧ a.instruction.args.length = 4 := by decide +kernel
  obtain ⟨recorded, _, stay⟩ := write_masks_stay_with_operands encode (some "1") d forms taken
    { rotate := true } 0
  have kept : (ofForms (recording encode) (some "1") forms { rotate := true } (0, [])).2.2 =
      tried.map Attempt.instruction := by rw [recorded]
  obtain ⟨a, mem, text, record, four⟩ := stopping
  obtain ⟨_, name, writes, argument, shown⟩ :=
    (stay a mem).2.behind 1 _ (by rw [record, second]) masked
  rw [record, place] at argument shown
  rw [four] at shown
  exact ⟨taken, second, masked, kept, a, mem, text, name, writes, argument, shown⟩

end Batch

end AsmFixtures
