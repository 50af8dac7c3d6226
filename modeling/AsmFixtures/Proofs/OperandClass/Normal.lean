import AsmFixtures.OperandClass.Normal
import AsmFixtures.Proofs.Database.OperandSlots
import AsmFixtures.Proofs.Text.Blank
import AsmFixtures.Proofs.Text.Decimal
import AsmFixtures.Proofs.Text.Pieces

/-! Normal names of operand classes. A removal can bring the parts of another decoration together,
so for any text at all a second removal may find more to do. The tokens of an operand are safe from
that. No brace of an alternative is opened and closed, and in the decorations behind it each
closing brace is the end of one; so what follows a removed decoration opens the next one, or
nothing follows. -/

namespace AsmFixtures.OperandClass

open OperandText.Decorated (braced Unpaired unpaired_scan)

namespace Chars

def roundings : List (List Char) := [['s', 'a', 'e'], ['e', 'r']]

theorem plain_of_mem_roundings {inside : List Char} (mem : inside ∈ roundings) :
    '\x7b' ∉ inside ∧ '\x7d' ∉ inside := by
  have plain : ∀ inside ∈ roundings, '\x7b' ∉ inside ∧ '\x7d' ∉ inside := by decide
  exact plain inside mem

theorem dropRounding_braced {inside : List Char} (mem : inside ∈ roundings) (rest : List Char) :
    dropRounding (braced inside ++ rest) = dropRounding rest := by
  simp only [roundings, List.mem_cons, List.not_mem_nil, or_false] at mem
  rcases mem with rfl | rfl <;> rfl

theorem dropRounding_cons {c : Char} {s : List Char}
    (apart : ∀ inside ∈ roundings, ¬ braced inside <+: c :: s) :
    dropRounding (c :: s) = c :: dropRounding s := by
  rw [dropRounding.eq_def]
  split
  · rename_i rest same
    exact absurd ⟨rest, same.symm⟩ (apart ['s', 'a', 'e'] (by decide))
  · rename_i rest same
    exact absurd ⟨rest, same.symm⟩ (apart ['e', 'r'] (by decide))
  · rename_i same
    cases same
    rfl
  · rename_i same
    cases same

theorem length_dropRounding_le (s : List Char) : (dropRounding s).length ≤ s.length := by
  fun_induction dropRounding s with
  | case1 rest ih => simp; omega
  | case2 rest ih => simp; omega
  | case3 c rest _ _ ih => simpa using ih
  | case4 => simp

theorem not_infix_of_dropRounding_eq {s inside : List Char} (mem : inside ∈ roundings)
    (kept : dropRounding s = s) : ¬ braced inside <:+: s := by
  rintro ⟨front, back, rfl⟩
  rw [List.append_assoc] at kept
  induction front with
  | nil =>
    have shorter := length_dropRounding_le back
    rw [List.nil_append, dropRounding_braced mem] at kept
    have longer := congrArg List.length kept
    simp [braced] at longer
    omega
  | cons c front ih =>
    rw [List.cons_append] at kept
    by_cases found : ∃ other ∈ roundings, braced other <+: c :: (front ++ (braced inside ++ back))
    · obtain ⟨other, known, rest, same⟩ := found
      have shorter := length_dropRounding_le rest
      rw [← same, dropRounding_braced known] at kept
      have longer := congrArg List.length kept
      simp [braced] at longer
      omega
    · rw [dropRounding_cons fun other known begins => found ⟨other, known, begins⟩] at kept
      exact ih (List.cons.inj kept).2

theorem dropRounding_append_plain {front : List Char} (opens : '\x7b' ∉ front)
    (rest : List Char) : dropRounding (front ++ rest) = front ++ dropRounding rest := by
  induction front with
  | nil => rfl
  | cons c front ih =>
    obtain ⟨first, later⟩ := not_or.mp (mt List.mem_cons.mpr opens)
    have apart : ∀ inside ∈ roundings, ¬ braced inside <+: c :: (front ++ rest) := by
      rintro inside _ ⟨back, same⟩
      exact first (List.cons.inj same).1
    rw [List.cons_append, dropRounding_cons apart, ih later, List.cons_append]

def Opens (s : List Char) : Prop := ∀ c ∈ s.head?, c = '\x7b'

theorem dropRounding_append_open {front rest : List Char} (closes : '\x7d' ∉ front)
    (opens : Opens rest) : dropRounding (front ++ rest) = front ++ dropRounding rest := by
  induction front with
  | nil => rfl
  | cons c front ih =>
    have apart : ∀ inside ∈ roundings, ¬ braced inside <+: c :: front ++ rest := by
      intro inside mem begins
      obtain ⟨plain, _⟩ := plain_of_mem_roundings mem
      rcases List.prefix_or_prefix_of_prefix begins (List.prefix_append (c :: front) rest) with
        within | ⟨back, same⟩
      · exact closes (within.subset (by simp [braced]))
      · -- The decoration would reach into the rest, and a second brace would open in it.
        rw [← same, List.prefix_append_right_inj] at begins
        cases back with
        | nil =>
          rw [List.append_nil] at same
          exact closes (same ▸ by simp [braced])
        | cons d back =>
          obtain ⟨behind, rfl⟩ := begins
          obtain rfl : d = '\x7b' := opens d rfl
          have tail : front ++ '\x7b' :: back = inside ++ ['\x7d'] := (List.cons.inj same).2
          have inner : '\x7b' ∈ inside ++ ['\x7d'] := by simp [← tail]
          simp [plain] at inner
    obtain ⟨_, later⟩ := not_or.mp (mt List.mem_cons.mpr closes)
    rw [List.cons_append] at apart ⊢
    rw [dropRounding_cons apart, ih later, List.cons_append]

theorem dropRounding_braced_append {inside : List Char} (opens : '\x7b' ∉ inside)
    (closes : '\x7d' ∉ inside) (other : inside ∉ roundings) (rest : List Char) :
    dropRounding (braced inside ++ rest) = braced inside ++ dropRounding rest := by
  have apart : ∀ rounding ∈ roundings,
      ¬ braced rounding <+: '\x7b' :: (inside ++ ['\x7d'] ++ rest) := by
    rintro rounding mem ⟨back, same⟩
    have tail : rounding ++ '\x7d' :: back = inside ++ '\x7d' :: rest := by
      simpa [braced] using same
    have equal := Text.Chars.append_separator_inj (plain_of_mem_roundings mem).2 closes tail
    exact other (equal.1 ▸ mem)
  have behind : '\x7b' ∉ inside ++ ['\x7d'] := by simp [opens]
  have first : braced inside ++ rest = '\x7b' :: (inside ++ ['\x7d'] ++ rest) := rfl
  rw [first, dropRounding_cons apart, dropRounding_append_plain behind]
  rfl

/-- Decorations in sequence, none of which closes a brace before its end. A brace that is opened
again inside a decoration is the one that its end closes. -/
inductive Decorations : List Char → Prop
  | none : Decorations []
  | opened {front rest : List Char} (closes : '\x7d' ∉ front) (later : Decorations rest) :
      Decorations ('\x7b' :: front ++ rest)
  | closed {inside rest : List Char} (opens : '\x7b' ∉ inside) (closes : '\x7d' ∉ inside)
      (later : Decorations rest) : Decorations (braced inside ++ rest)

theorem Decorations.opens {s : List Char} (h : Decorations s) : Opens s := by
  cases h <;> simp [Opens, braced]

theorem Decorations.settled {s : List Char} (h : Decorations s) :
    Opens (dropRounding s) ∧ dropRounding (dropRounding s) = dropRounding s := by
  induction h with
  | none => exact ⟨nofun, rfl⟩
  | @opened front rest closes later ih =>
    have apart : '\x7d' ∉ '\x7b' :: front := by simp [closes]
    rw [dropRounding_append_open apart later.opens, dropRounding_append_open apart ih.1, ih.2]
    exact ⟨by simp [Opens], rfl⟩
  | @closed inside rest opens closes later ih =>
    by_cases rounding : inside ∈ roundings
    · rw [dropRounding_braced rounding]
      exact ih
    · have kept := dropRounding_braced_append opens closes rounding
      rw [kept, kept, ih.2]
      exact ⟨by simp [Opens, braced], rfl⟩

theorem decorations_braced_append {rest : List Char} (later : Decorations rest)
    {inside : List Char} (closes : '\x7d' ∉ inside) : Decorations (braced inside ++ rest) := by
  by_cases opens : '\x7b' ∈ inside
  · obtain ⟨front, last, inner⟩ := List.append_of_mem opens
    have shorter : last.length < inside.length := by
      rw [inner, List.length_append, List.length_cons]
      omega
    simp only [inner, List.mem_append, List.mem_cons, not_or] at closes
    have parts : braced inside ++ rest = '\x7b' :: front ++ (braced last ++ rest) := by
      simp [braced, inner]
    rw [parts]
    exact .opened closes.1 (decorations_braced_append later closes.2.2)
  · exact .closed opens closes later
termination_by inside.length

theorem decorations_flatMap {decorations : List (List Char)}
    (closes : ∀ inside ∈ decorations, '\x7d' ∉ inside) :
    Decorations (decorations.flatMap braced) := by
  induction decorations with
  | nil => exact .none
  | cons inside rest ih =>
    obtain ⟨first, later⟩ := List.forall_mem_cons.mp closes
    exact decorations_braced_append (ih later) first

theorem dropRounding_append_unpaired {front rest : List Char} (unpaired : Unpaired front)
    (opens : Opens rest) : dropRounding (front ++ rest) = front ++ dropRounding rest := by
  induction front with
  | nil => rfl
  | cons c front ih =>
    obtain ⟨first, later⟩ := List.pairwise_cons.mp unpaired
    by_cases brace : c = '\x7b'
    · have closes : '\x7d' ∉ c :: front := by
        rintro (_ | ⟨_, mem⟩)
        · cases brace
        · exact first _ mem brace rfl
      exact dropRounding_append_open closes opens
    · have plain : '\x7b' ∉ [c] := by simpa using Ne.symm brace
      have first := dropRounding_append_plain plain (front ++ rest)
      rw [List.singleton_append, ih later] at first
      exact first

theorem settled_append {front rest : List Char} (unpaired : Unpaired front)
    (h : Decorations rest) :
    dropRounding (dropRounding (front ++ rest)) = dropRounding (front ++ rest) := by
  obtain ⟨opens, settled⟩ := h.settled
  rw [dropRounding_append_unpaired unpaired h.opens,
    dropRounding_append_unpaired unpaired opens, settled]

theorem dropRounding_of_plain {s : List Char} (plain : '\x7b' ∉ s) : dropRounding s = s := by
  simpa [dropRounding] using dropRounding_append_plain plain []

end Chars

theorem dropRounding_of_mem_slots {operand token : String} {slot : List String}
    (mem : slot ∈ OperandText.slots operand) (chosen : token ∈ slot) :
    dropRounding (dropRounding token) = dropRounding token := by
  obtain ⟨unpaired, closes⟩ := @unpaired_scan none nofun operand.toList
  rw [OperandText.slots_eq, OperandText.maskSlot] at mem
  rcases List.mem_cons.mp mem with rfl | mask
  · simp only [OperandText.alternatives, OperandText.Decorated.alternatives, List.map_map,
      List.mem_map, Function.comp_apply] at chosen
    obtain ⟨alternative, cut, rfl⟩ := chosen
    have inner : (Text.Chars.trim alternative).Sublist
        (OperandText.Decorated.ofText operand.toList).plain :=
      (Text.Chars.trim_sublist alternative).trans
        ((Text.Chars.sublist_of_mem_split cut).trans (Text.Chars.trim_sublist _))
    have suffix : Chars.Decorations (OperandText.Decorated.ofText operand.toList).suffix :=
      Chars.decorations_flatMap fun inside kept => closes inside (List.mem_filter.mp kept).1
    have settled := Chars.settled_append (unpaired.sublist inner) suffix
    simp [dropRounding, settled]
  · split at mask
    · obtain rfl := List.mem_singleton.mp mask
      obtain rfl := List.mem_singleton.mp chosen
      rfl
    · cases mask

theorem resolve_cases (opcode token : String) :
    aliases.lookup (resolve opcode token) = none ∧
      (resolve opcode token = token ∨ '\x7b' ∉ (resolve opcode token).toList) := by
  have names : ∀ p ∈ aliases, aliases.lookup p.2 = none ∧ '\x7b' ∉ p.2.toList := by decide +kernel
  have keys : ∀ p ∈ aliases, ':' ∉ p.1.toList := by decide +kernel
  unfold resolve
  cases found : aliases.lookup token with
  | none => exact ⟨found, .inl rfl⟩
  | some name =>
    obtain ⟨before, after, split, _⟩ := List.lookup_eq_some_iff.mp found
    obtain ⟨last, plain⟩ := names (token, name) (by simp [split])
    dsimp only
    split
    · cases known : elementWidths.lookup opcode with
      | none => exact ⟨last, .inr plain⟩
      | some width =>
        have digits := Text.not_mem_toDigits (c := '\x7b') rfl width
        refine ⟨List.lookup_eq_none_iff.mpr fun p mem => ?_, .inr ?_⟩
        · have colon := keys p mem
          rw [bne_iff_ne]
          rintro same
          simp [← same] at colon
        · simpa [Nat.toString_eq_ofList_toDigits, digits] using plain
    · exact ⟨last, .inr plain⟩

theorem resolve_of_lookup_eq_none {opcode token : String} (h : aliases.lookup token = none) :
    resolve opcode token = token := by
  simp [resolve, h]

/-- The class of a token is its own class, and no rounding is left in its name. -/
theorem normalize_idempotent_on_slots (operand opcode : String) :
    ∀ slot ∈ OperandText.slots operand, ∀ token ∈ slot,
      normalize opcode (normalize opcode token) = normalize opcode token ∧
        ¬ "\x7bsae\x7d".toList <:+: (normalize opcode token).toList ∧
        ¬ "\x7ber\x7d".toList <:+: (normalize opcode token).toList := by
  intro slot mem token chosen
  have settled : dropRounding (normalize opcode token) = normalize opcode token := by
    rcases (resolve_cases opcode (dropRounding token)).2 with same | plain
    · rw [normalize, same, dropRounding_of_mem_slots mem chosen]
    · rw [dropRounding, normalize, Chars.dropRounding_of_plain plain, String.ofList_toList]
  have kept : Chars.dropRounding (normalize opcode token).toList =
      (normalize opcode token).toList := by
    simpa [dropRounding] using congrArg String.toList settled
  have sae : ['s', 'a', 'e'] ∈ Chars.roundings := by decide
  have er : ['e', 'r'] ∈ Chars.roundings := by decide
  refine ⟨?_, Chars.not_infix_of_dropRounding_eq sae kept,
    Chars.not_infix_of_dropRounding_eq er kept⟩
  rw [normalize, settled, normalize,
    resolve_of_lookup_eq_none (resolve_cases opcode (dropRounding token)).1]

/-- A decoration inside a decoration ends the outer one, and what is left of that goes in front. -/
theorem normalize_idempotent_on_slots_of_nested_braces :
    ["m512r\x7d\x7be\x7bsae\x7d"] ∈ OperandText.slots "m512\x7be\x7bsae\x7dr\x7d" ∧
      normalize "VADDPD" "m512r\x7d\x7be\x7bsae\x7d" = "m512r\x7d\x7be" ∧
      normalize "VADDPD" (normalize "VADDPD" "m512r\x7d\x7be\x7bsae\x7d") =
        normalize "VADDPD" "m512r\x7d\x7be\x7bsae\x7d" ∧
      ¬ "\x7ber\x7d".toList <:+: (normalize "VADDPD" "m512r\x7d\x7be\x7bsae\x7d").toList := by
  have mem : ["m512r\x7d\x7be\x7bsae\x7d"] ∈ OperandText.slots "m512\x7be\x7bsae\x7dr\x7d" := by
    decide +kernel
  obtain ⟨same, _, er⟩ := normalize_idempotent_on_slots "m512\x7be\x7bsae\x7dr\x7d" "VADDPD" _ mem
    _ List.mem_cons_self
  exact ⟨mem, by decide +kernel, same, er⟩

/-- Of a text that is no token, a second removal may take more. -/
example : normalize "VADDPD" "\x7be\x7bsae\x7dr\x7d" = "\x7ber\x7d" ∧
    normalize "VADDPD" "\x7ber\x7d" = "" := by decide +kernel

end AsmFixtures.OperandClass
