import AsmFixtures.Proofs.Encoder.Cascade

/-! Which calls a script makes. To prepare operands only registers are looked up and operands
made, in order, and a preparation that fails ends with the lookup that failed. An instruction
is built after all of its operands are made, and every call behind that concerns the request
that was made of it. A name that is not known is looked up at most once by a script, which then
fails and tells it. -/

namespace AsmFixtures.Encoder

inductive Call.Prepares (names : List String) : Call → Prop
  | register {name : String} (mem : name ∈ names) : Prepares names (.register name)
  | operand (o : LibraryOperand) : Prepares names (.operand o)

theorem Call.Prepares.mono {names more : List String} {c : Call} (h : c.Prepares names)
    (within : names ⊆ more) : c.Prepares more := by
  cases h with
  | register mem => exact .register (within mem)
  | operand o => exact .operand o

def Call.operand? : Call → Option LibraryOperand
  | .operand o => some o
  | _ => none

def Call.Misses (library : Library) : Call → Prop
  | .opcode name => library.opcode name = 0
  | .register name => library.register name = 0
  | _ => False

instance (library : Library) : DecidablePred (Call.Misses library) := fun c => by
  cases c <;> unfold Call.Misses <;> infer_instance

theorem Call.Misses.isLookup {library : Library} {c : Call} (h : c.Misses library) :
    c.IsLookup := by
  cases c with
  | opcode name => trivial
  | register name => trivial
  | _ => exact h

def Failure.missed? : Failure → Option Call
  | .config (.unknownOpcode name) => some (.opcode name)
  | .config (.unknownRegister name) => some (.register name)
  | _ => none

def missed? {α : Type} : Except Failure α → Option Call
  | .ok _ => none
  | .error e => e.missed?

namespace Script

variable {α β : Type} {script : Script α} {next : α → Script β} {library : Library}

theorem calls_bind_of_ok {a : α} (h : script.result = .ok a) :
    (script >>= next).calls = script.calls ++ (next a).calls := by
  rcases script with ⟨calls, result⟩
  obtain rfl : result = .ok a := h
  rfl

theorem calls_bind_of_error {e : Failure} (h : script.result = .error e) :
    (script >>= next).calls = script.calls := by
  rcases script with ⟨calls, result⟩
  obtain rfl : result = .error e := h
  rfl

theorem mem_calls_bind {c : Call} :
    c ∈ (script >>= next).calls ↔
      c ∈ script.calls ∨ ∃ a, script.result = .ok a ∧ c ∈ (next a).calls := by
  cases h : script.result with
  | ok a => simp [calls_bind_of_ok h]
  | error e => simp [calls_bind_of_error h]

theorem prepares_register {name : Option String} {c : Call}
    (h : c ∈ (register library name).calls) : c.Prepares name.toList := by
  cases name with
  | none => cases h
  | some name =>
    obtain rfl := List.mem_singleton.mp h
    exact .register List.mem_cons_self

theorem prepares_operand {o : Operand} {c : Call} (h : c ∈ (operand library o).calls) :
    c.Prepares o.registers := by
  cases o with
  | reg name =>
    rcases mem_calls_bind.mp h with here | ⟨number, _, here⟩
    · exact prepares_register here
    · obtain rfl := List.mem_singleton.mp here
      exact .operand _
  | imm value bits signed =>
    obtain rfl := List.mem_singleton.mp h
    exact .operand _
  | mem base index scale disp dispBits width =>
    rcases mem_calls_bind.mp h with here | ⟨baseNumber, _, h⟩
    · exact (prepares_register here).mono (List.subset_append_left _ _)
    · rcases mem_calls_bind.mp h with here | ⟨indexNumber, _, here⟩
      · exact (prepares_register here).mono (List.subset_append_right _ _)
      · obtain rfl := List.mem_singleton.mp here
        exact .operand _

theorem prepares_operands {os : List Operand} {c : Call}
    (h : c ∈ (operands library os).calls) : c.Prepares (os.flatMap Operand.registers) := by
  induction os with
  | nil => cases h
  | cons o rest ih =>
    rw [List.flatMap_cons]
    rcases mem_calls_bind.mp h with here | ⟨first, _, h⟩
    · exact (prepares_operand here).mono (List.subset_append_left _ _)
    · rcases mem_calls_bind.mp h with here | ⟨others, _, here⟩
      · exact (ih here).mono (List.subset_append_right _ _)
      · cases here

/-- A preparation that fails has made its last call for a register that is not known. -/
def FailsAtRegister (script : Script α) : Prop :=
  ∀ e, script.result = .error e →
    ∃ earlier name, script.calls = earlier ++ [.register name] ∧
      e = .config (.unknownRegister name)

theorem failsAtRegister_bind (first : script.FailsAtRegister)
    (rest : ∀ a, (next a).FailsAtRegister) : (script >>= next).FailsAtRegister := by
  intro e failed
  cases h : script.result with
  | error cause =>
    rw [result_bind, h] at failed
    cases failed
    rw [calls_bind_of_error h]
    exact first _ h
  | ok a =>
    rw [result_bind, h] at failed
    obtain ⟨earlier, name, calls, cause⟩ := rest a e failed
    refine ⟨script.calls ++ earlier, name, ?_, cause⟩
    rw [calls_bind_of_ok h, calls, List.append_assoc]

theorem failsAtRegister_register (name : Option String) :
    (register library name).FailsAtRegister := by
  intro e failed
  cases name with
  | none => cases failed
  | some name =>
    have unknown : library.register? (some name) = .error e := failed
    rw [Library.register?] at unknown
    split at unknown
    · cases unknown
      exact ⟨[], name, rfl, rfl⟩
    · cases unknown

theorem failsAtRegister_make (o : LibraryOperand) : (make o).FailsAtRegister :=
  fun _ failed => nomatch failed

theorem failsAtRegister_operand (o : Operand) : (operand library o).FailsAtRegister := by
  cases o with
  | reg name =>
    exact failsAtRegister_bind (failsAtRegister_register _) fun _ => failsAtRegister_make _
  | imm value bits signed => exact failsAtRegister_make _
  | mem base index scale disp dispBits width =>
    apply failsAtRegister_bind (failsAtRegister_register base)
    intro baseNumber
    apply failsAtRegister_bind (failsAtRegister_register index)
    intro indexNumber
    exact failsAtRegister_make _

theorem failsAtRegister_operands (os : List Operand) :
    (operands library os).FailsAtRegister := by
  induction os with
  | nil => exact fun _ failed => nomatch failed
  | cons o rest ih =>
    apply failsAtRegister_bind (failsAtRegister_operand o)
    intro first
    apply failsAtRegister_bind ih
    intro others
    exact fun _ failed => nomatch failed

theorem made_register (name : Option String) :
    (register library name).calls.filterMap Call.operand? = [] := by
  cases name <;> rfl

theorem made_operand {o : Operand} {taken : LibraryOperand}
    (h : (operand library o).result = .ok taken) :
    (operand library o).calls.filterMap Call.operand? = [taken] := by
  cases o with
  | reg name =>
    rw [operand, result_bind] at h
    obtain ⟨number, found, h⟩ := bind_eq_ok.mp h
    cases h
    rw [operand, calls_bind_of_ok found, List.filterMap_append, made_register]
    rfl
  | imm value bits signed =>
    cases h
    rfl
  | mem base index scale disp dispBits width =>
    rw [operand, result_bind] at h
    obtain ⟨baseNumber, baseFound, h⟩ := bind_eq_ok.mp h
    rw [result_bind] at h
    obtain ⟨indexNumber, indexFound, h⟩ := bind_eq_ok.mp h
    cases h
    rw [operand, calls_bind_of_ok baseFound, calls_bind_of_ok indexFound, List.filterMap_append,
      List.filterMap_append, made_register, made_register]
    rfl

theorem made_operands {os : List Operand} {taken : List LibraryOperand}
    (h : (operands library os).result = .ok taken) :
    (operands library os).calls.filterMap Call.operand? = taken := by
  induction os generalizing taken with
  | nil =>
    cases h
    rfl
  | cons o rest ih =>
    rw [operands, result_bind] at h
    obtain ⟨first, made, h⟩ := bind_eq_ok.mp h
    rw [result_bind] at h
    obtain ⟨others, later, h⟩ := bind_eq_ok.mp h
    cases h
    rw [operands, calls_bind_of_ok made, calls_bind_of_ok later, List.filterMap_append,
      List.filterMap_append, made_operand made, ih later]
    exact congrArg (first :: ·) (List.append_nil others)

variable {request : Request} {params : List Param}

theorem calls_submit_of_not_converts (h : library.converts request = false) :
    (submit library request params).calls =
      [.instruction request, .setMode, .convert request] := by
  unfold submit
  rw [h]
  rfl

theorem calls_submit_of_error {text : String} (taken : library.converts request = true)
    (h : library.encode (request.overrideAll params) = .error text) :
    (submit library request params).calls =
      [.instruction request, .setMode, .convert request] ++
        (params.filterMap overrideCall? ++
          [.encode (request.overrideAll params), .errorText]) := by
  unfold submit
  simp only [taken, h]
  rfl

theorem calls_submit_of_ok {bytes : List UInt8} (taken : library.converts request = true)
    (h : library.encode (request.overrideAll params) = .ok bytes) :
    (submit library request params).calls =
      [.instruction request, .setMode, .convert request] ++
        (params.filterMap overrideCall? ++ [.encode (request.overrideAll params)]) := by
  unfold submit
  simp only [taken, h]
  rfl

theorem not_isLookup_of_mem_submit {c : Call} (h : c ∈ (submit library request params).calls) :
    ¬ c.IsLookup := by
  intro lookup
  have plain : c ∉ params.filterMap overrideCall? :=
    fun mem => Engine.not_isLookup_of_mem_overrides mem lookup
  cases taken : library.converts request with
  | false =>
    rw [calls_submit_of_not_converts taken] at h
    cases c <;> simp_all [Call.IsLookup]
  | true =>
    cases answer : library.encode (request.overrideAll params) with
    | error text =>
      rw [calls_submit_of_error taken answer] at h
      cases c <;> simp_all [Call.IsLookup]
    | ok bytes =>
      rw [calls_submit_of_ok taken answer] at h
      cases c <;> simp_all [Call.IsLookup]

/-- The lookups for an instruction are of its opcode and of its registers. -/
theorem mem_calls_encode {inst : Instruction} {c : Call}
    (h : c ∈ (encode library inst).calls) :
    c = .opcode inst.opcode ∨ c.Prepares inst.registers ∨ ¬ c.IsLookup := by
  rcases mem_calls_bind.mp h with here | ⟨number, _, h⟩
  · exact .inl (List.mem_singleton.mp here)
  · right
    split at h
    · cases h
    · cases converted : Operand.ofArguments inst.args with
      | error e =>
        rw [converted] at h
        cases h
      | ok os =>
        rw [converted] at h
        rcases mem_calls_bind.mp h with here | ⟨taken, _, here⟩
        · have prepares := prepares_operands here
          rw [Operand.registers_ofArgumentsFrom converted] at prepares
          exact .inl prepares
        · exact .inr (not_isLookup_of_mem_submit here)

/-- A script that looks an unknown name up fails with it, and tells no other. -/
def TellsMisses (library : Library) (script : Script α) : Prop :=
  script.calls.filter (·.Misses library) = (missed? script.result).toList

theorem tellsMisses_bind (first : script.TellsMisses library)
    (rest : ∀ a, (next a).TellsMisses library) : (script >>= next).TellsMisses library := by
  unfold TellsMisses at first ⊢
  cases h : script.result with
  | error e =>
    rw [h] at first
    rw [calls_bind_of_error h, result_bind, h, first]
    rfl
  | ok a =>
    rw [h] at first
    rw [calls_bind_of_ok h, result_bind, h, List.filter_append, first, rest a]
    rfl

theorem filter_misses_eq_nil {calls : List Call} (plain : ∀ c ∈ calls, ¬ c.IsLookup) :
    calls.filter (·.Misses library) = [] := by
  rw [List.filter_eq_nil_iff]
  intro c mem misses
  exact plain c mem (Call.Misses.isLookup (of_decide_eq_true misses))

theorem tellsMisses_fail {e : Failure} (other : e.missed? = none) :
    (fail e : Script α).TellsMisses library := by
  unfold TellsMisses
  rw [fail, missed?, other]
  rfl

theorem tellsMisses_opcode (name : String) : (opcode library name).TellsMisses library := by
  unfold TellsMisses opcode Library.opcode?
  by_cases unknown : library.opcode name = 0
  · simp [Call.Misses, missed?, Failure.missed?, unknown]
  · simp [Call.Misses, missed?, unknown]

theorem tellsMisses_register (name : Option String) :
    (register library name).TellsMisses library := by
  cases name with
  | none => rfl
  | some name =>
    unfold TellsMisses register Library.register?
    by_cases unknown : library.register name = 0
    · simp [Call.Misses, missed?, Failure.missed?, unknown]
    · simp [Call.Misses, missed?, unknown]

theorem tellsMisses_make (o : LibraryOperand) : (make o).TellsMisses library := rfl

theorem tellsMisses_operand (o : Operand) : (operand library o).TellsMisses library := by
  cases o with
  | reg name => exact tellsMisses_bind (tellsMisses_register _) fun _ => tellsMisses_make _
  | imm value bits signed => exact tellsMisses_make _
  | mem base index scale disp dispBits width =>
    apply tellsMisses_bind (tellsMisses_register base)
    intro baseNumber
    apply tellsMisses_bind (tellsMisses_register index)
    intro indexNumber
    exact tellsMisses_make _

theorem tellsMisses_operands (os : List Operand) :
    (operands library os).TellsMisses library := by
  induction os with
  | nil => rfl
  | cons o rest ih =>
    apply tellsMisses_bind (tellsMisses_operand o)
    intro first
    apply tellsMisses_bind ih
    intro others
    rfl

theorem tellsMisses_submit : (submit library request params).TellsMisses library := by
  unfold TellsMisses
  rw [filter_misses_eq_nil fun _ => not_isLookup_of_mem_submit, result_submit, Library.bytes?]
  split
  · rfl
  · split <;> rfl

theorem tellsMisses_encode (inst : Instruction) : (encode library inst).TellsMisses library := by
  apply tellsMisses_bind (tellsMisses_opcode _)
  intro number
  split
  · exact tellsMisses_fail rfl
  · cases Operand.ofArguments inst.args with
    | error e => exact tellsMisses_fail (by cases e <;> rfl)
    | ok converted =>
      apply tellsMisses_bind (tellsMisses_operands converted)
      intro taken
      exact tellsMisses_submit

end Script

end AsmFixtures.Encoder
