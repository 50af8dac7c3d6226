import AsmFixtures.Proofs.Encoder.Session
import AsmFixtures.Proofs.Operand

/-! Which answer an instruction gets. The checks come in a fixed order: the opcode, the
number of arguments, the arguments one by one, their registers, and last the library's own
two refusals. The first check that fails decides. -/

namespace AsmFixtures.Encoder

namespace Library

variable {α β : Type} (library : Library)

def knowing (names : List String) (value : α) : Except Failure α :=
  match names.find? fun name => library.register name = 0 with
  | none => .ok value
  | some name => .error (.config (.unknownRegister name))

theorem knowing_bind {names more : List String} {value : α} {result : β}
    {next : α → Except Failure β} (h : next value = library.knowing more result) :
    (library.knowing names value >>= next) = library.knowing (names ++ more) result := by
  unfold knowing
  rw [List.find?_append]
  cases names.find? fun name => library.register name = 0 with
  | none => simpa [knowing, bind, Except.bind] using h
  | some name => simp [bind, Except.bind]

theorem knowing_map (names : List String) (value : α) (f : α → β) :
    (do return f (← library.knowing names value)) = library.knowing names (f value) := by
  unfold knowing
  cases names.find? fun name => library.register name = 0 <;> rfl

theorem knowing_of_known {names : List String} (known : ∀ r ∈ names, library.register r ≠ 0)
    (value : α) : library.knowing names value = .ok value := by
  have none : names.find? (fun name => library.register name = 0) = none := by simpa using known
  rw [knowing, none]

theorem knowing_of_split {names before after : List String} {name : String}
    (split : names = before ++ name :: after) (known : ∀ r ∈ before, library.register r ≠ 0)
    (unknown : library.register name = 0) (value : α) :
    library.knowing names value = .error (.config (.unknownRegister name)) := by
  have found : names.find? (fun name => library.register name = 0) = some name :=
    List.find?_eq_some_iff_append.mpr
      ⟨by simpa using unknown, before, after, split, by simpa using known⟩
  rw [knowing, found]

theorem knowing_cases (names : List String) (value : α) :
    ((∀ r ∈ names, library.register r ≠ 0) ∧ library.knowing names value = .ok value) ∨
    ∃ before name after, names = before ++ name :: after ∧
      (∀ r ∈ before, library.register r ≠ 0) ∧ library.register name = 0 ∧
      library.knowing names value = .error (.config (.unknownRegister name)) := by
  cases found : names.find? fun name => library.register name = 0 with
  | none =>
    have known : ∀ r ∈ names, library.register r ≠ 0 := by simpa using found
    exact .inl ⟨known, library.knowing_of_known known value⟩
  | some name =>
    obtain ⟨none, before, after, split, earlier⟩ := List.find?_eq_some_iff_append.mp found
    have unknown : library.register name = 0 := by simpa using none
    have known : ∀ r ∈ before, library.register r ≠ 0 := by simpa using earlier
    exact .inr ⟨before, name, after, split, known, unknown,
      library.knowing_of_split split known unknown value⟩

def operand : Operand → LibraryOperand
  | .reg name => .reg (library.register name)
  | .imm value bits signed =>
    if signed then .signedImmediate value bits else .unsignedImmediate value bits
  | .mem base index scale disp dispBits width =>
    .memory (base.elim 0 library.register) (index.elim 0 library.register) scale
      (Engine.extended disp) dispBits width

theorem register?_eq_knowing (name : Option String) :
    library.register? name = library.knowing name.toList (name.elim 0 library.register) := by
  cases name with
  | none => rfl
  | some name =>
    by_cases unknown : library.register name = 0
    · simp [register?, knowing, unknown]
    · simp [register?, knowing, unknown]

theorem operand?_eq_knowing (o : Operand) :
    library.operand? o = library.knowing o.registers (library.operand o) := by
  cases o with
  | reg name =>
    rw [operand?, register?_eq_knowing]
    exact knowing_map library _ _ _
  | imm value bits signed => rfl
  | mem base index scale disp dispBits width =>
    rw [operand?, register?_eq_knowing, register?_eq_knowing]
    exact knowing_bind library (knowing_map library _ _ _)

theorem operands?_eq_knowing (os : List Operand) :
    library.operands? os =
      library.knowing (os.flatMap Operand.registers) (os.map library.operand) := by
  induction os with
  | nil => rfl
  | cons o rest ih =>
    rw [operands?, operand?_eq_knowing, ih, List.flatMap_cons]
    exact knowing_bind library (knowing_map library _ _ _)

def request (inst : Instruction) (os : List Operand) : Request :=
  ⟨library.opcode inst.opcode, operandSize inst.params, os.map library.operand, none, none⟩

end Library

/-- The answers to an instruction. Each rule needs that the rules before it do not apply. -/
inductive Judged (library : Library) (inst : Instruction) :
    Except Failure (List UInt8) → Prop
  | unknownOpcode (unknown : library.opcode inst.opcode = 0) :
      Judged library inst (.error (.config (.unknownOpcode inst.opcode)))
  | tooManyArguments (known : library.opcode inst.opcode ≠ 0) (many : 5 < inst.args.length) :
      Judged library inst (.error (.refused ⟨.tooManyArguments inst.args.length, none⟩))
  | argument (known : library.opcode inst.opcode ≠ 0) (few : inst.args.length ≤ 5)
      {e : ArgumentError} (rejected : Operand.ofArguments inst.args = .error e) :
      Judged library inst (.error (.ofArgumentError e))
  | unknownRegister (known : library.opcode inst.opcode ≠ 0) (few : inst.args.length ≤ 5)
      {os : List Operand} (converted : Operand.ofArguments inst.args = .ok os)
      {before after : List String} {name : String}
      (split : inst.registers = before ++ name :: after)
      (resolved : ∀ r ∈ before, library.register r ≠ 0) (unknown : library.register name = 0) :
      Judged library inst (.error (.config (.unknownRegister name)))
  | conversion (known : library.opcode inst.opcode ≠ 0) (few : inst.args.length ≤ 5)
      {os : List Operand} (converted : Operand.ofArguments inst.args = .ok os)
      (resolved : ∀ r ∈ inst.registers, library.register r ≠ 0)
      (refused : library.converts (library.request inst os) = false) :
      Judged library inst (.error (.refused ⟨.requestConversion, none⟩))
  | encoding (known : library.opcode inst.opcode ≠ 0) (few : inst.args.length ≤ 5)
      {os : List Operand} (converted : Operand.ofArguments inst.args = .ok os)
      (resolved : ∀ r ∈ inst.registers, library.register r ≠ 0)
      (taken : library.converts (library.request inst os) = true) {text : String}
      (refused : library.encode ((library.request inst os).overrideAll inst.params) =
        .error text) :
      Judged library inst (.error (.refused ⟨.encoding text, none⟩))
  | encoded (known : library.opcode inst.opcode ≠ 0) (few : inst.args.length ≤ 5)
      {os : List Operand} (converted : Operand.ofArguments inst.args = .ok os)
      (resolved : ∀ r ∈ inst.registers, library.register r ≠ 0)
      (taken : library.converts (library.request inst os) = true) {bytes : List UInt8}
      (produced : library.encode ((library.request inst os).overrideAll inst.params) =
        .ok bytes) :
      Judged library inst (.ok bytes)

theorem judged_encode? (library : Library) (inst : Instruction) :
    Judged library inst (library.encode? inst) := by
  unfold Library.encode? Library.opcode?
  by_cases known : library.opcode inst.opcode = 0
  · rw [if_pos known]
    exact .unknownOpcode known
  rw [if_neg known]
  by_cases many : Engine.maxArgs < inst.args.length
  · simp only [bind, Except.bind, if_pos many]
    exact .tooManyArguments known many
  have few : inst.args.length ≤ 5 := Nat.not_lt.mp many
  simp only [bind, Except.bind, if_neg many]
  cases converted : Operand.ofArguments inst.args with
  | error e => exact .argument known few converted
  | ok os =>
    have names : os.flatMap Operand.registers = inst.registers :=
      Operand.registers_ofArgumentsFrom converted
    simp only [library.operands?_eq_knowing, names]
    rcases library.knowing_cases inst.registers (os.map library.operand) with
      ⟨resolved, answer⟩ | ⟨before, name, after, split, resolved, unknown, answer⟩
    · simp only [answer]
      change Judged library inst (library.bytes? (library.request inst os) inst.params)
      unfold Library.bytes?
      by_cases taken : library.converts (library.request inst os) = true
      · rw [if_neg (by simp [taken])]
        cases answer : library.encode ((library.request inst os).overrideAll inst.params) with
        | error text => exact .encoding known few converted resolved taken answer
        | ok bytes => exact .encoded known few converted resolved taken answer
      · have refused : library.converts (library.request inst os) = false := by simpa using taken
        rw [if_pos (by simp [refused])]
        exact .conversion known few converted resolved refused
    · simp only [answer]
      exact .unknownRegister known few converted split resolved unknown

end AsmFixtures.Encoder
