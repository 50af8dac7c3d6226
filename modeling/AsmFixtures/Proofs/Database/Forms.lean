import AsmFixtures.Database
import AsmFixtures.Proofs.Database.OperandSlots
import AsmFixtures.Proofs.Product
import Mathlib.Algebra.BigOperators.Group.List.Basic

/-! The forms of a record and of a database. A form stands for a choice of one alternative at
each operand position, so the forms of a record are counted by the positions of an odometer
whose wheels are as large as the lists of alternatives. The operands and masks in front of an
operand tell its place in a form, and its own mask comes next. A database gives the forms of the
records it covers, one record after the other. -/

namespace AsmFixtures

namespace OperandText

variable {operands args : List String}

theorem exists_chosen_of_mem_choices (mem : args ∈ choices (operands.flatMap slots)) :
    ∃ chosen, List.Forall₂ (fun operand a => a ∈ alternatives operand) operands chosen ∧
      args = (operands.zip chosen).flatMap fun p =>
        p.2 :: if Masked p.1 then ["\x7bk\x7d"] else [] := by
  induction operands generalizing args with
  | nil =>
    have empty : args = [] := by simpa [choices] using mem
    exact ⟨[], .nil, empty⟩
  | cons operand operands ih =>
    rw [List.flatMap_cons, slots_eq, maskSlot] at mem
    by_cases masked : Masked operand
    · simp only [masked, if_true, List.cons_append, List.nil_append, choices,
        List.mem_flatMap, List.mem_map, List.mem_singleton] at mem
      obtain ⟨a, ha, _, ⟨_, rfl, tail, htail, rfl⟩, rfl⟩ := mem
      obtain ⟨chosen, each, rfl⟩ := ih htail
      exact ⟨a :: chosen, .cons ha each, by simp [masked]⟩
    · simp only [masked, if_false, List.cons_append, List.nil_append, choices,
        List.mem_flatMap, List.mem_map] at mem
      obtain ⟨a, ha, tail, htail, rfl⟩ := mem
      obtain ⟨chosen, each, rfl⟩ := ih htail
      exact ⟨a :: chosen, .cons ha each, by simp [masked]⟩

theorem length_flatMap_slots (operands : List String) :
    (operands.flatMap slots).length =
      operands.length + operands.countP (fun operand => Masked operand) := by
  induction operands with
  | nil => rfl
  | cons operand operands ih =>
    rw [List.flatMap_cons, List.length_append, ih, slots_eq, maskSlot]
    by_cases masked : Masked operand <;> simp [masked] <;> omega

/-- Where the alternatives of an operand stand among the positions of all operands: behind one
position for each operand in front of it, and one for each of these that has a mask. -/
def position (operands : List String) (j : Nat) : Nat :=
  j + (operands.take j).countP fun operand => Masked operand

theorem length_flatMap_slots_take {j : Nat} (inside : j ≤ operands.length) :
    ((operands.take j).flatMap slots).length = position operands j := by
  rw [length_flatMap_slots, List.length_take, Nat.min_eq_left inside, position]

theorem getElem?_flatMap_slots {j : Nat} {operand : String} (here : operands[j]? = some operand) :
    (operands.flatMap slots)[position operands j]? = some (alternatives operand) ∧
      (Masked operand →
        (operands.flatMap slots)[position operands j + 1]? = some ["\x7bk\x7d"]) := by
  obtain ⟨inside, rfl⟩ := List.getElem?_eq_some_iff.mp here
  have front := length_flatMap_slots_take (Nat.le_of_lt inside)
  have parts : operands.flatMap slots = (operands.take j).flatMap slots ++
      (slots operands[j] ++ (operands.drop (j + 1)).flatMap slots) := by
    rw [← List.flatMap_cons, ← List.drop_eq_getElem_cons inside, ← List.flatMap_append,
      List.take_append_drop]
  rw [parts, ← front, slots_eq]
  constructor
  · simp
  · intro masked
    simp [maskSlot, masked]

end OperandText

namespace Record

theorem forms_eq_map_positions (r : Record) :
    r.forms = (Odometer.positions (r.slots.map List.length)).map fun position =>
      ⟨r, List.zipWith (fun slot i => slot.getD i "") r.slots position⟩ := by
  rw [forms, Odometer.choices_eq_map_positions, List.map_map]
  rfl

theorem length_forms (r : Record) : r.forms.length = (r.slots.map List.length).prod := by
  rw [forms, List.length_map, length_choices, List.prod_eq_foldr]

theorem args_mem_choices {r : Record} {f : Form} (mem : f ∈ r.forms) :
    f.args ∈ choices (r.intelArgs.flatMap OperandText.slots) := by
  obtain ⟨args, chosen, rfl⟩ := List.mem_map.mp mem
  exact chosen

theorem length_args {r : Record} {f : Form} (mem : f ∈ r.forms) :
    f.args.length = r.intelArgs.length +
      r.intelArgs.countP (fun operand => OperandText.Masked operand) := by
  rw [← OperandText.length_flatMap_slots]
  exact (mem_choices.mp (args_mem_choices mem)).length_eq

theorem exists_token_of_mem_forms {r : Record} {f : Form} (mem : f ∈ r.forms) {j : Nat}
    {operand : String} (here : r.intelArgs[j]? = some operand) :
    ∃ token ∈ OperandText.alternatives operand,
      f.args[OperandText.position r.intelArgs j]? = some token ∧
      (OperandText.Masked operand →
        f.args[OperandText.position r.intelArgs j + 1]? = some "\x7bk\x7d") := by
  have chosen := mem_choices.mp (args_mem_choices mem)
  obtain ⟨own, behind⟩ := OperandText.getElem?_flatMap_slots here
  obtain ⟨token, at_own, among⟩ := exists_getElem?_of_forall₂ chosen own
  refine ⟨token, among, at_own, fun masked => ?_⟩
  obtain ⟨mask, at_mask, only⟩ := exists_getElem?_of_forall₂ chosen (behind masked)
  rw [at_mask, List.mem_singleton.mp only]

end Record

theorem Form.record_of_mem_forms {r : Record} {f : Form} (h : f ∈ r.forms) : f.record = r := by
  obtain ⟨args, _, rfl⟩ := List.mem_map.mp h
  rfl

namespace Database

theorem covers_eq (pattern : Option Pattern) (r : Record) :
    covers pattern r = decide (r.valid64 = "V" ∧ ∀ p ∈ pattern, p.occursIn r.cpuid = true) := by
  unfold covers Record.valid64Bit
  cases pattern <;> simp [Bool.decide_and, beq_eq_decide]

theorem forms?_eq (d : Database) (names : Pattern.CharacterNames) (filter : Option String) :
    d.forms? names filter = (filter.mapM (Pattern.parse? names)).map fun pattern =>
      (d.records.filter fun r =>
        r.valid64 = "V" ∧ ∀ p ∈ pattern, p.occursIn r.cpuid = true).flatMap Record.forms := by
  have covered : ∀ pattern, d.forms pattern = (d.records.filter fun r =>
      r.valid64 = "V" ∧ ∀ p ∈ pattern, p.occursIn r.cpuid = true).flatMap Record.forms := by
    intro pattern
    exact congrArg (List.flatMap Record.forms) (congrArg (List.filter · d.records)
      (funext (covers_eq pattern)))
  cases filter with
  | none => simp [forms?, covered, Except.map, pure, Except.pure]
  | some text =>
    cases parsed : Pattern.parse? names text <;>
      simp [forms?, parsed, covered, Except.map, bind, Except.bind, pure, Except.pure]

/-- The operand grammar and what it expands to. An operand gives its alternatives, each with the
decorations that stay, and a position for its masks. A record gives one form for each choice of
alternatives, in lexicographic order of their positions, and a database the forms of the records
it covers. -/
theorem forms_follow_operand_grammar :
    (∀ parts : List OperandText.Part,
      OperandText.slots (OperandText.ofParts parts) =
        ((Text.Chars.split '/' (Text.Chars.trim
            (parts.filterMap OperandText.Part.plain?).flatten)).map fun alternative =>
          String.ofList (Text.Chars.trim alternative ++
            ((parts.filterMap OperandText.Part.inside?).filter fun d =>
              ¬ OperandText.Decorated.IsMask d ∧ d ≠ ['z']).flatMap
                OperandText.Decorated.braced)) ::
        if ∃ d ∈ parts.filterMap OperandText.Part.inside?, OperandText.Decorated.IsMask d
        then [["\x7bk\x7d"]] else []) ∧
    (∀ r : Record,
      (∃ positions : List (List Nat),
        positions.Pairwise (List.Lex (· < ·)) ∧
        (∀ position, position ∈ positions ↔
          List.Forall₂ (· < ·) position (r.slots.map List.length)) ∧
        r.forms = positions.map fun position =>
          ⟨r, List.zipWith (fun slot i => slot.getD i "") r.slots position⟩) ∧
      r.slots = r.intelArgs.flatMap OperandText.slots ∧
      r.forms.length = (r.slots.map List.length).prod ∧
      ∀ f ∈ r.forms,
        f.args.length = r.intelArgs.length +
          r.intelArgs.countP (fun operand => OperandText.Masked operand) ∧
        ∃ chosen,
          List.Forall₂ (fun operand a => a ∈ OperandText.alternatives operand)
            r.intelArgs chosen ∧
          f.args = (r.intelArgs.zip chosen).flatMap fun p =>
            p.2 :: if OperandText.Masked p.1 then ["\x7bk\x7d"] else []) ∧
    ∀ (d : Database) (names : Pattern.CharacterNames) (filter : Option String),
      d.forms? names filter = (filter.mapM (Pattern.parse? names)).map fun pattern =>
        (d.records.filter fun r =>
          r.valid64 = "V" ∧ ∀ p ∈ pattern, p.occursIn r.cpuid = true).flatMap Record.forms := by
  refine ⟨OperandText.slots_ofParts, fun r => ?_, forms?_eq⟩
  refine ⟨?_, rfl, r.length_forms, fun f mem => ?_⟩
  · exact ⟨_, Odometer.pairwise_positions _, fun _ => Odometer.mem_positions,
      r.forms_eq_map_positions⟩
  · exact ⟨Record.length_args mem,
      OperandText.exists_chosen_of_mem_choices (Record.args_mem_choices mem)⟩

/-- A masked operand and one with two alternatives, which both keep the rounding. -/
theorem forms_follow_operand_grammar_of_masked_operand :
    let r : Record :=
      { intel := "VADDPD zmm1\x7bk\x7d\x7bz\x7d, zmmV, zmm2/m512\x7ber\x7d", go := "VADDPD" }
    let f : Form := ⟨r, ["zmm1", "\x7bk\x7d", "zmmV", "m512\x7ber\x7d"]⟩
    f ∈ r.forms ∧ r.forms.length = 2 ∧ f.args.length = r.intelArgs.length + 1 := by
  intro r f
  have mem : f ∈ r.forms := by decide +kernel
  obtain ⟨_, _, count, each⟩ := forms_follow_operand_grammar.2.1 r
  exact ⟨mem, count.trans (by decide +kernel), (each f mem).1.trans (by decide +kernel)⟩

end Database

end AsmFixtures
