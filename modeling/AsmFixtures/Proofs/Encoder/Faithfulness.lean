import AsmFixtures.Proofs.Encoder.Memory

/-! What the operand of an engine tells about its argument. Accepted arguments become equal
operands exactly when they mean the same: a register, an immediate, or an address whose parts
agree once a missing factor counts as one and the displacement size is settled. The library's
form of an operand loses nothing more, as long as its register numbers are distinct: an absent
register has the number zero, which no known one has, and 64 bits hold every displacement. -/

namespace AsmFixtures

inductive Argument.SameMeaning : Argument → Argument → Prop
  | register (name : String) : SameMeaning (.reg name) (.reg name)
  | immediate (value width : Int) (unsigned : Bool) :
      SameMeaning (.imm value width unsigned) (.imm value width unsigned)
  | memory {m n : MemoryArgument} (base : m.base = n.base) (index : m.index = n.index)
      (factor : m.factor = n.factor) (disp : m.disp = n.disp) {bits : Nat}
      (size : m.dispBits? = .ok bits) (sameSize : n.dispBits? = .ok bits)
      (width : m.width = n.width) : SameMeaning (.mem m) (.mem n)

namespace Operand

/-- The arguments that become the same operand are those that mean the same. -/
theorem Converted.eq_iff_sameMeaning {a b : Argument} {o p : Operand} (ha : Converted a o)
    (hb : Converted b p) : o = p ↔ a.SameMeaning b := by
  constructor
  · intro same
    cases ha with
    | register name =>
      cases hb with
      | register other =>
        cases same
        exact .register name
      | immediate => cases same
      | memory => cases same
    | @immediate value width unsigned shape =>
      cases hb with
      | register => cases same
      | @immediate _ width' unsigned' shape' =>
        injection same with sameValue sameBits sameSign
        -- The widths are positive, so their numbers of bits tell them apart.
        have positive := width_pos_of_shape shape
        have positive' := width_pos_of_shape shape'
        obtain rfl : width = width' := by omega
        obtain rfl : unsigned = unsigned' := Bool.not_inj sameSign
        subst sameValue
        exact .immediate value width unsigned
      | memory => cases same
    | memory _ known sized =>
      cases hb with
      | register => cases same
      | immediate => cases same
      | memory _ known' sized' =>
        injection same with base index factor disp size width
        have positive := MemoryArgument.factor_pos known
        have positive' := MemoryArgument.factor_pos known'
        exact .memory base index (by omega) disp sized (size ▸ sized') width
  · intro h
    cases h with
    | register name =>
      cases ha
      cases hb
      rfl
    | immediate value width unsigned =>
      cases ha
      cases hb
      rfl
    | memory base index factor disp size sameSize width =>
      cases ha with
      | memory _ _ sized =>
        cases hb with
        | memory _ _ sized' =>
          obtain rfl := Except.ok.inj (size.symm.trans sized)
          obtain rfl := Except.ok.inj (sameSize.symm.trans sized')
          rw [base, index, factor, disp, width]

def Narrow : Operand → Prop
  | .mem _ _ _ disp _ _ => -2 ^ 31 ≤ disp ∧ disp < 2 ^ 31
  | _ => True

theorem Converted.narrow {a : Argument} {o : Operand} (h : Converted a o) : o.Narrow := by
  cases h with
  | register name => trivial
  | immediate shape range => trivial
  | memory range known sized => exact range

end Operand

namespace Encoder

theorem Engine.extended_injective {x y : Int} (hx : -2 ^ 31 ≤ x ∧ x < 2 ^ 31)
    (hy : -2 ^ 31 ≤ y ∧ y < 2 ^ 31) (h : extended x = extended y) : x = y := by
  have modulus : Int.pow 2 64 = 2 ^ 64 := rfl
  rw [extended, extended, modulus] at h
  omega

namespace Library

variable {library : Library}

def Distinct (library : Library) : Prop :=
  ∀ r s, library.register r ≠ 0 → library.register r = library.register s → r = s

theorem Distinct.optional {base other : Option String} (distinct : library.Distinct)
    (known : ∀ r ∈ base.toList, library.register r ≠ 0)
    (knownOther : ∀ r ∈ other.toList, library.register r ≠ 0)
    (h : base.elim 0 library.register = other.elim 0 library.register) : base = other := by
  cases base with
  | none =>
    cases other with
    | none => rfl
    | some s => exact absurd h.symm (knownOther s List.mem_cons_self)
  | some r =>
    have found : library.register r ≠ 0 := known r List.mem_cons_self
    cases other with
    | none => exact absurd h found
    | some s => exact congrArg some (distinct r s found h)

theorem Distinct.operand_injective (distinct : library.Distinct) {o p : Operand}
    (known : ∀ r ∈ o.registers, library.register r ≠ 0)
    (knownOther : ∀ r ∈ p.registers, library.register r ≠ 0) (narrow : o.Narrow)
    (narrowOther : p.Narrow) (h : library.operand o = library.operand p) : o = p := by
  cases o with
  | reg name =>
    cases p with
    | reg other =>
      injection h with same
      exact congrArg _ (distinct name other (known name List.mem_cons_self) same)
    | imm value bits signed => cases signed <;> cases h
    | mem => cases h
  | imm value bits signed =>
    cases p with
    | reg => cases signed <;> cases h
    | imm value' bits' signed' => cases signed <;> cases signed' <;> cases h <;> rfl
    | mem => cases signed <;> cases h
  | mem base index scale disp dispBits width =>
    cases p with
    | reg => cases h
    | imm value bits signed => cases signed <;> cases h
    | mem base' index' scale' disp' dispBits' width' =>
      injection h with sameBase sameIndex sameScale sameDisp sameBits sameWidth
      have bases : base = base' :=
        distinct.optional (fun r mem => known r (List.mem_append_left _ mem))
          (fun r mem => knownOther r (List.mem_append_left _ mem)) sameBase
      have indices : index = index' :=
        distinct.optional (fun r mem => known r (List.mem_append_right _ mem))
          (fun r mem => knownOther r (List.mem_append_right _ mem)) sameIndex
      have disps : disp = disp' := Engine.extended_injective narrow narrowOther sameDisp
      subst bases indices sameScale disps sameBits sameWidth
      rfl

end Library

theorem Engine.operand_after {library : Library} (earlier : List Query) {o : Operand}
    (known : ∀ r ∈ o.registers, library.register r ≠ 0) :
    ((operand library o).runOn (Query.askAll library earlier .start).2).1 =
      .ok (library.operand o) := by
  have faithful := (@Query.exact_askAll library earlier).faithful
  rw [follows_operand o _ faithful, Script.result_operand, library.operand?_eq_knowing,
    library.knowing_of_known known]

theorem operands_tell_their_arguments (library : Library) (distinct : library.Distinct) :
    (∀ a : Argument, (∃ o, Operand.ofArgument a = .ok o) ↔ a.Encodable) ∧
      (∀ a : Argument, a.Proper → ¬ a.Encodable →
        ∃ refusal, Operand.ofArgument a = .error (.encode ⟨refusal, none⟩)) ∧
      (∀ value width unsigned, Operand.ofImmediate? value width unsigned =
        some (Operand.ofImmediate value width unsigned)) ∧
      (∀ m : MemoryArgument, m.size = .smallest → ∀ base index scale disp bits width,
        Operand.ofArgument (.mem m) = .ok (.mem base index scale disp bits width) →
          IsLeast {n | n ∈ ({0, 8, 32} : Set Nat) ∧ SignedRange n m.disp} bits) ∧
      ∀ (earlier later : List Query) (a b : Argument) (o p : Operand),
        Operand.ofArgument a = .ok o → Operand.ofArgument b = .ok p →
        (∀ r ∈ a.registers, library.register r ≠ 0) →
        (∀ r ∈ b.registers, library.register r ≠ 0) →
        ∃ x y, ((Engine.operand library o).runOn
            (Query.askAll library earlier .start).2).1 = .ok x ∧
          ((Engine.operand library p).runOn (Query.askAll library later .start).2).1 = .ok y ∧
          (x = y ↔ a.SameMeaning b) := by
  refine ⟨Operand.exists_ofArgument_iff, ?_, Operand.ofImmediate?_eq_some, ?_, ?_⟩
  · intro a proper outside
    cases refused : Operand.ofArgument a with
    | ok o => exact absurd ((Operand.exists_ofArgument_iff a).mp ⟨o, refused⟩) outside
    | error e =>
      rcases Operand.ofArgument_eq_error refused with ⟨_, rfl, _⟩ | ⟨_, error, plain, rfl⟩
      · exact proper.elim
      · obtain ⟨refusal, index⟩ := error
        obtain ⟨_, rfl⟩ := plain
        exact ⟨refusal, rfl⟩
  · intro m smallest base index scale disp bits width taken
    cases Operand.converted_of_ofArgument taken with
    | memory range known sized =>
      exact MemoryArgument.isLeast_of_smallest smallest range.1 range.2 sized
  · intro earlier later a b o p ha hb known knownOther
    have converted := Operand.converted_of_ofArgument ha
    have convertedOther := Operand.converted_of_ofArgument hb
    rw [← Operand.registers_ofArgument ha] at known
    rw [← Operand.registers_ofArgument hb] at knownOther
    refine ⟨library.operand o, library.operand p, Engine.operand_after earlier known,
      Engine.operand_after later knownOther, ?_⟩
    rw [← converted.eq_iff_sameMeaning convertedOther]
    constructor
    · exact distinct.operand_injective known knownOther converted.narrow convertedOther.narrow
    · rintro rfl
      rfl

/-- A factor of one may be left out; an address without base has another operand. -/
theorem operands_tell_base_from_index :
    let library : Library :=
      { opcode := fun _ => 0, register := fun name => if name = "RAX" then 1 else 0
        converts := fun _ => true, encode := fun _ => .ok [] }
    let bare : Argument := .mem { base := some "RAX", disp := -1 }
    let scaled : Argument := .mem { base := some "RAX", scale := 1, disp := -1, size := .disp8 }
    let indexed : Argument := .mem { index := some "RAX", disp := -1 }
    let made : Option String → Option String → Operand := fun base index =>
      .mem base index 1 (-1) 8 0
    library.Distinct ∧ Operand.ofArgument bare = .ok (made (some "RAX") none) ∧
      Operand.ofArgument scaled = .ok (made (some "RAX") none) ∧
      Operand.ofArgument indexed = .ok (made none (some "RAX")) ∧
      bare.SameMeaning scaled ∧ ¬ bare.SameMeaning indexed := by
  intro library bare scaled indexed made
  have distinct : library.Distinct := by
    intro r s known same
    have hr : r = "RAX" := by simpa [library] using known
    have hs : s = "RAX" := by simpa [library, hr] using same
    rw [hr, hs]
  have known : ∀ r ∈ ["RAX"], library.register r ≠ 0 := by simp [library]
  obtain ⟨_, _, _, _, faithful⟩ := operands_tell_their_arguments library distinct
  obtain ⟨x, y, hx, hy, same⟩ := faithful [] [.register (some "RAX")] bare scaled
    (made (some "RAX") none) (made (some "RAX") none) rfl rfl known known
  obtain ⟨x', z, hx', hz, other⟩ := faithful [] [] bare indexed
    (made (some "RAX") none) (made none (some "RAX")) rfl rfl known known
  have ofBase : Except.ok (LibraryOperand.memory 1 0 1 (2 ^ 64 - 1) 8 0) = .ok x := hx
  have ofScaled : Except.ok (LibraryOperand.memory 1 0 1 (2 ^ 64 - 1) 8 0) = .ok y := hy
  have ofBare : Except.ok (LibraryOperand.memory 1 0 1 (2 ^ 64 - 1) 8 0) = .ok x' := hx'
  have ofIndexed : Except.ok (LibraryOperand.memory 0 1 1 (2 ^ 64 - 1) 8 0) = .ok z := hz
  refine ⟨distinct, rfl, rfl, rfl, same.mp ?_, fun h => ?_⟩
  · exact Except.ok.inj (ofBase.symm.trans ofScaled)
  · rw [other.mpr h] at ofBare
    cases ofBare.trans ofIndexed.symm

end Encoder

end AsmFixtures
