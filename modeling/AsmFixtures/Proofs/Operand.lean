import AsmFixtures.Proofs.Operand.Acceptance

/-! Arguments and the operands made from them. An operand has the registers of its argument.
A check can only fail at an immediate or at an address, and the plain ones of these pass. -/

namespace AsmFixtures

/-- The registers in an argument, the base of an address before its index. -/
def Argument.registers : Argument → List String
  | .reg name => [name]
  | .mem m => m.base.toList ++ m.index.toList
  | _ => []

def Instruction.registers (inst : Instruction) : List String :=
  inst.args.flatMap Argument.registers

namespace Operand

def registers : Operand → List String
  | .reg name => [name]
  | .mem base index .. => base.toList ++ index.toList
  | .imm .. => []

theorem registers_ofArgument {a : Argument} {o : Operand} (h : ofArgument a = .ok o) :
    o.registers = a.registers := by
  cases converted_of_ofArgument h <;> rfl

theorem registers_ofArgumentsFrom {args : List Argument} {os : List Operand} {index : Nat}
    (h : ofArgumentsFrom index args = .ok os) :
    os.flatMap registers = args.flatMap Argument.registers := by
  induction args generalizing os index with
  | nil =>
    obtain rfl : [] = os := by simpa [ofArgumentsFrom] using h
    rfl
  | cons a rest ih =>
    rw [ofArgumentsFrom] at h
    obtain ⟨o, first, h⟩ := bind_eq_ok.mp h
    obtain ⟨later, others, h⟩ := bind_eq_ok.mp h
    cases h
    have here := registers_ofArgument (mapError_eq_ok.mp first)
    rw [List.flatMap_cons, List.flatMap_cons, here, ih others]

end Operand

structure MemoryArgument.Plain (m : MemoryArgument) : Prop where
  disp_fits : fits m.disp 32 true = true
  scale_known : m.scale = 0 ∨ m.scale ∈ scales
  size_open : m.size = .smallest

theorem DisplacementSize.same_smallest_iff (size : DisplacementSize) :
    size.same .smallest = true ↔ size = .smallest := by
  cases size <;> simp [same]

instance (m : MemoryArgument) : Decidable m.Plain :=
  decidable_of_iff (fits m.disp 32 true = true ∧ (m.scale = 0 ∨ m.scale ∈ scales) ∧
      m.size.same .smallest = true) (by
    rw [DisplacementSize.same_smallest_iff]
    exact ⟨fun ⟨disp, scale, size⟩ => ⟨disp, scale, size⟩, fun h => ⟨h.1, h.2, h.3⟩⟩)

inductive Argument.Supplied : Argument → Prop
  | register (name : String) : Supplied (.reg name)
  | byte {value : Int} (range : fits value 8 false = true) : Supplied (.imm value 8 true)
  | memory {m : MemoryArgument} (plain : m.Plain) : Supplied (.mem m)

theorem Argument.Supplied.encodable {a : Argument} (h : a.Supplied) : a.Encodable := by
  cases h with
  | register name => exact .register name
  | byte range =>
    obtain ⟨low, high⟩ := (fits_unsigned_iff _ 8).mp range
    exact .unsigned (by simp) low high
  | @memory m plain =>
    obtain ⟨low, high⟩ := (fits_signed_iff m.disp 32).mp plain.disp_fits
    exact .memory low high (List.mem_cons.mpr plain.scale_known) (.inl plain.size_open)

theorem Operand.ofArgumentsFrom_of_supplied {args : List Argument}
    (h : ∀ a ∈ args, a.Supplied) (index : Nat) : ∃ os, ofArgumentsFrom index args = .ok os :=
  exists_ofArgumentsFrom (fun a mem => (h a mem).encodable) index

end AsmFixtures
