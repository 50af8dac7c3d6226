import AsmFixtures.Database.OperandSlots
import Mathlib.Data.List.Basic

/-! The grammar of operand texts. A text is put together of plain parts and decorations in any
order and number. Reading it collects the plain text and the decorations apart from each other,
so where a decoration stands does not matter: a mask opens a position of its own behind the
operand, zeroing is dropped, and all others go behind every alternative in their order. -/

namespace AsmFixtures.OperandText

/-- A plain part opens no brace, and a decoration closes none before its end. -/
inductive Part
  | plain (text : List Char) (opens : '\x7b' ∉ text)
  | decoration (inside : List Char) (closes : '\x7d' ∉ inside)

namespace Part

def chars : Part → List Char
  | plain text _ => text
  | decoration inside _ => Decorated.braced inside

def plain? : Part → Option (List Char)
  | plain text _ => some text
  | decoration _ _ => none

def inside? : Part → Option (List Char)
  | plain _ _ => none
  | decoration inside _ => some inside

end Part

def ofParts (parts : List Part) : String := String.ofList (parts.flatMap Part.chars)

namespace Decorated

def IsMask (decoration : List Char) : Prop :=
  ∃ number, decoration = 'k' :: number ∧ ∀ c ∈ number, Text.isDigit c = true

theorem isMask_iff (decoration : List Char) : isMask decoration = true ↔ IsMask decoration := by
  unfold isMask IsMask
  split
  · simp
  · rename_i apart
    constructor
    · intro h
      cases h
    · rintro ⟨number, rfl, _⟩
      exact absurd rfl (apart number)

instance (decoration : List Char) : Decidable (IsMask decoration) :=
  decidable_of_iff _ (isMask_iff decoration)

theorem scan_plain {text : List Char} (opens : '\x7b' ∉ text) (rest : List Char) :
    scan none (text ++ rest) =
      { scan none rest with plain := text ++ (scan none rest).plain } := by
  induction text with
  | nil => rfl
  | cons c text ih =>
    simp only [List.mem_cons, not_or] at opens
    simp [scan, Ne.symm opens.1, ih opens.2, addPlain]

theorem scan_inside {inside : List Char} (closes : '\x7d' ∉ inside) (opened rest : List Char) :
    scan (some opened) (inside ++ '\x7d' :: rest) =
      (scan none rest).addDecoration (opened.reverse ++ inside) := by
  induction inside generalizing opened with
  | nil => simp [scan]
  | cons c inside ih =>
    simp only [List.mem_cons, not_or] at closes
    simp [scan, Ne.symm closes.1, ih closes.2]

theorem scan_decoration {inside : List Char} (closes : '\x7d' ∉ inside) (rest : List Char) :
    scan none (braced inside ++ rest) = (scan none rest).addDecoration inside := by
  have opened := scan_inside closes [] rest
  simpa [braced, scan] using opened

theorem ofText_parts (parts : List Part) :
    ofText (parts.flatMap Part.chars) =
      ⟨(parts.filterMap Part.plain?).flatten, parts.filterMap Part.inside?⟩ := by
  unfold ofText
  induction parts with
  | nil => rfl
  | cons part parts ih =>
    rw [List.flatMap_cons]
    cases part with
    | plain text opens =>
      rw [Part.chars, scan_plain opens, ih]
      simp [List.filterMap_cons, Part.plain?, Part.inside?]
    | decoration inside closes =>
      rw [Part.chars, scan_decoration closes, ih]
      simp [List.filterMap_cons, Part.plain?, Part.inside?, addDecoration]

def Unpaired (text : List Char) : Prop := text.Pairwise fun c d => c = '\x7b' → d ≠ '\x7d'

theorem unpaired_of_not_mem {text : List Char} (closes : '\x7d' ∉ text) : Unpaired text :=
  List.pairwise_of_forall_mem_list fun _ _ _ mem _ same => closes (same ▸ mem)

/-- Outside of decorations no pair of braces is left, and inside none is closed. -/
theorem unpaired_scan {opened : Option (List Char)} (closes : ∀ inside ∈ opened, '\x7d' ∉ inside)
    (text : List Char) :
    Unpaired (scan opened text).plain ∧
      ∀ inside ∈ (scan opened text).decorations, '\x7d' ∉ inside := by
  induction text generalizing opened with
  | nil =>
    cases opened with
    | none => exact ⟨.nil, nofun⟩
    | some inside =>
      have apart := closes inside rfl
      exact ⟨unpaired_of_not_mem (by simp [scan, apart]), nofun⟩
  | cons c rest ih =>
    cases opened with
    | none =>
      rw [scan]
      split
      · exact ih fun _ start => Option.some.inj start ▸ List.not_mem_nil
      · rename_i opens
        obtain ⟨plain, decorations⟩ := ih closes
        exact ⟨.cons (fun _ _ same => absurd same opens) plain, decorations⟩
    | some inside =>
      have apart := closes inside rfl
      rw [scan]
      split
      · obtain ⟨plain, decorations⟩ := @ih none nofun
        exact ⟨plain, List.forall_mem_cons.mpr ⟨by simp [apart], decorations⟩⟩
      · rename_i other
        refine ih fun longer same => ?_
        rw [← Option.some.inj same]
        simp [apart, Ne.symm other]

/-- Reading puts no character into an operand but the brace of a decoration that is never closed. -/
theorem forall_mem_scan {p : Char → Prop} (brace : p '\x7b') {opened : Option (List Char)}
    (front : ∀ inside ∈ opened, ∀ c ∈ inside, p c) {text : List Char} (all : ∀ c ∈ text, p c) :
    (∀ c ∈ (scan opened text).plain, p c) ∧
      ∀ inside ∈ (scan opened text).decorations, ∀ c ∈ inside, p c := by
  induction text generalizing opened with
  | nil =>
    cases opened with
    | none => exact ⟨nofun, nofun⟩
    | some inside => exact ⟨by simpa [scan] using ⟨brace, front inside rfl⟩, nofun⟩
  | cons c rest ih =>
    obtain ⟨first, later⟩ := List.forall_mem_cons.mp all
    cases opened with
    | none =>
      rw [scan]
      split
      · exact ih (by simp) later
      · obtain ⟨plain, decorations⟩ := ih front later
        exact ⟨List.forall_mem_cons.mpr ⟨first, plain⟩, decorations⟩
    | some inside =>
      have before := front inside rfl
      rw [scan]
      split
      · obtain ⟨plain, decorations⟩ := @ih none nofun later
        exact ⟨plain, List.forall_mem_cons.mpr ⟨by simpa using before, decorations⟩⟩
      · refine ih (fun longer same => ?_) later
        rw [← Option.some.inj same]
        exact List.forall_mem_cons.mpr ⟨first, before⟩

theorem suffix_eq (d : Decorated) :
    d.suffix = (d.decorations.filter fun e => ¬ IsMask e ∧ e ≠ ['z']).flatMap braced := by
  unfold suffix
  congr 1
  apply List.filter_congr
  intro e _
  have mask := isMask_iff e
  by_cases zeroing : e = ['z'] <;> by_cases masks : isMask e = true <;>
    simp_all [isZeroing]

end Decorated

def alternatives (operand : String) : List String :=
  (Decorated.ofText operand.toList).alternatives.map String.ofList

def Masked (operand : String) : Prop :=
  ∃ decoration ∈ (Decorated.ofText operand.toList).decorations, Decorated.IsMask decoration

theorem masked_iff (operand : String) :
    (Decorated.ofText operand.toList).masked = true ↔ Masked operand := by
  simp [Decorated.masked, Masked, Decorated.isMask_iff]

instance (operand : String) : Decidable (Masked operand) :=
  decidable_of_iff _ (masked_iff operand)

def maskSlot (operand : String) : List (List String) :=
  if Masked operand then [["\x7bk\x7d"]] else []

theorem slots_eq (operand : String) : slots operand = alternatives operand :: maskSlot operand := by
  unfold slots alternatives maskSlot
  by_cases masked : Masked operand
  · simp [masked, (masked_iff operand).mpr masked, maskToken]
  · have unmasked : (Decorated.ofText operand.toList).masked = false :=
      Bool.eq_false_iff.mpr (mt (masked_iff operand).mp masked)
    simp [masked, unmasked]

theorem slots_ofParts (parts : List Part) :
    let decorations := parts.filterMap Part.inside?
    let suffix := (decorations.filter fun d => ¬ Decorated.IsMask d ∧ d ≠ ['z']).flatMap
      Decorated.braced
    slots (ofParts parts) =
      ((Text.Chars.split '/' (Text.Chars.trim (parts.filterMap Part.plain?).flatten)).map
        fun alternative => String.ofList (Text.Chars.trim alternative ++ suffix)) ::
      if ∃ d ∈ decorations, Decorated.IsMask d then [["\x7bk\x7d"]] else [] := by
  intro decorations suffix
  have read : Decorated.ofText (ofParts parts).toList =
      ⟨(parts.filterMap Part.plain?).flatten, decorations⟩ := by
    rw [ofParts, String.toList_ofList, Decorated.ofText_parts]
  have kept : (Decorated.ofText (ofParts parts).toList).suffix = suffix := by
    rw [Decorated.suffix_eq, read]
  rw [slots_eq, alternatives, maskSlot, Decorated.alternatives, kept]
  simp only [Masked, read, List.map_map, Function.comp_def]

end AsmFixtures.OperandText
