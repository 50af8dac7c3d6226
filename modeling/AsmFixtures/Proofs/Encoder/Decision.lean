import AsmFixtures.Proofs.Encoder.Memory

/-! What is decided about an instruction, and at what price. The first check that fails gives
the answer, on an engine with any history, and the library is asked for no more than that check
needs: for the number of the opcode while only the instruction itself is looked at, for
registers and operands while these are prepared, and for a request only after that. -/

namespace AsmFixtures.Encoder

def requestCalls (request : Request) : List Call :=
  [.instruction request, .setMode, .convert request]

/-- The calls before an instruction is built: its opcode and some of its registers are looked
up, and operands are made. -/
def Preparatory (inst : Instruction) (calls : List Call) : Prop :=
  ∀ c ∈ calls, c = .opcode inst.opcode ∨ c.Prepares inst.registers

/-- The answer to an instruction, with the calls that are made for it. Each rule needs that the
rules before it do not apply. -/
inductive Decided (library : Library) (inst : Instruction) :
    Except Failure (List UInt8) → List Call → Prop
  | unknownOpcode (unknown : library.opcode inst.opcode = 0) :
      Decided library inst (.error (.config (.unknownOpcode inst.opcode))) [.opcode inst.opcode]
  | tooManyArguments (known : library.opcode inst.opcode ≠ 0) (many : 5 < inst.args.length)
      {calls : List Call} (frame : calls.Sublist [.opcode inst.opcode]) :
      Decided library inst (.error (.refused ⟨.tooManyArguments inst.args.length, none⟩)) calls
  | refusedArgument (known : library.opcode inst.opcode ≠ 0) (few : inst.args.length ≤ 5)
      {before after : List Argument} {a : Argument} {refusal : Refusal}
      (split : inst.args = before ++ a :: after) (accepted : ∀ b ∈ before, b.Encodable)
      (refused : Operand.ofArgument a = .error (.encode ⟨refusal, none⟩))
      {calls : List Call} (frame : calls.Sublist [.opcode inst.opcode]) :
      Decided library inst (.error (.refused ⟨refusal, some before.length⟩)) calls
  | wrongType (known : library.opcode inst.opcode ≠ 0) (few : inst.args.length ≤ 5)
      {before after : List Argument} {value : Datum}
      (split : inst.args = before ++ .other value :: after)
      (accepted : ∀ b ∈ before, b.Encodable)
      {calls : List Call} (frame : calls.Sublist [.opcode inst.opcode]) :
      Decided library inst (.error (.argumentType value.typeName)) calls
  | unknownRegister (known : library.opcode inst.opcode ≠ 0) (few : inst.args.length ≤ 5)
      (accepted : ∀ a ∈ inst.args, a.Encodable) {before after : List String} {name : String}
      (split : inst.registers = before ++ name :: after)
      (resolved : ∀ r ∈ before, library.register r ≠ 0) (unknown : library.register name = 0)
      {calls : List Call} (frame : Preparatory inst calls) :
      Decided library inst (.error (.config (.unknownRegister name))) (calls ++ [.register name])
  | conversion (known : library.opcode inst.opcode ≠ 0) (few : inst.args.length ≤ 5)
      {os : List Operand} (converted : Operand.ofArguments inst.args = .ok os)
      (resolved : ∀ r ∈ inst.registers, library.register r ≠ 0)
      (refused : library.converts (library.request inst os) = false)
      {calls : List Call} (frame : Preparatory inst calls)
      (made : calls.filterMap Call.operand? = os.map library.operand) :
      Decided library inst (.error (.refused ⟨.requestConversion, none⟩))
        (calls ++ requestCalls (library.request inst os))
  | encoding (known : library.opcode inst.opcode ≠ 0) (few : inst.args.length ≤ 5)
      {os : List Operand} (converted : Operand.ofArguments inst.args = .ok os)
      (resolved : ∀ r ∈ inst.registers, library.register r ≠ 0)
      (taken : library.converts (library.request inst os) = true) {text : String}
      (refused : library.encode ((library.request inst os).overrideAll inst.params) =
        .error text)
      {calls : List Call} (frame : Preparatory inst calls)
      (made : calls.filterMap Call.operand? = os.map library.operand) :
      Decided library inst (.error (.refused ⟨.encoding text, none⟩))
        (calls ++ requestCalls (library.request inst os) ++
          inst.params.filterMap overrideCall? ++
          [.encode ((library.request inst os).overrideAll inst.params), .errorText])
  | encoded (known : library.opcode inst.opcode ≠ 0) (few : inst.args.length ≤ 5)
      {os : List Operand} (converted : Operand.ofArguments inst.args = .ok os)
      (resolved : ∀ r ∈ inst.registers, library.register r ≠ 0)
      (taken : library.converts (library.request inst os) = true) {bytes : List UInt8}
      (produced : library.encode ((library.request inst os).overrideAll inst.params) =
        .ok bytes)
      {calls : List Call} (frame : Preparatory inst calls)
      (made : calls.filterMap Call.operand? = os.map library.operand) :
      Decided library inst (.ok bytes)
        (calls ++ requestCalls (library.request inst os) ++
          inst.params.filterMap overrideCall? ++
          [.encode ((library.request inst os).overrideAll inst.params)])

namespace Script

variable {library : Library} {inst : Instruction} {os : List Operand}

theorem calls_encode_of_unknown (unknown : library.opcode inst.opcode = 0) :
    (encode library inst).calls = [.opcode inst.opcode] :=
  calls_bind_of_error (if_pos unknown)

theorem calls_encode_of_many (known : library.opcode inst.opcode ≠ 0)
    (many : Engine.maxArgs < inst.args.length) :
    (encode library inst).calls = [.opcode inst.opcode] := by
  have found : (opcode library inst.opcode).result = .ok (library.opcode inst.opcode) :=
    if_neg known
  rw [encode, calls_bind_of_ok found, if_pos many]
  rfl

theorem calls_encode_of_rejected (known : library.opcode inst.opcode ≠ 0)
    (few : inst.args.length ≤ Engine.maxArgs) {e : ArgumentError}
    (rejected : Operand.ofArguments inst.args = .error e) :
    (encode library inst).calls = [.opcode inst.opcode] := by
  have found : (opcode library inst.opcode).result = .ok (library.opcode inst.opcode) :=
    if_neg known
  rw [encode, calls_bind_of_ok found, if_neg (Nat.not_lt.mpr few), rejected]
  rfl

theorem calls_encode_of_converted (known : library.opcode inst.opcode ≠ 0)
    (few : inst.args.length ≤ Engine.maxArgs)
    (converted : Operand.ofArguments inst.args = .ok os) :
    (encode library inst).calls = .opcode inst.opcode ::
      (operands library os >>= fun taken =>
        submit library ⟨library.opcode inst.opcode, operandSize inst.params, taken, none, none⟩
          inst.params).calls := by
  have found : (opcode library inst.opcode).result = .ok (library.opcode inst.opcode) :=
    if_neg known
  rw [encode, calls_bind_of_ok found, if_neg (Nat.not_lt.mpr few), converted]
  rfl

end Script

section Decision

variable {library : Library} {inst : Instruction} {os : List Operand}

theorem result_operands_eq_knowing (converted : Operand.ofArguments inst.args = .ok os) :
    (Script.operands library os).result =
      library.knowing inst.registers (os.map library.operand) := by
  have names : os.flatMap Operand.registers = inst.registers :=
    Operand.registers_ofArgumentsFrom converted
  rw [Script.result_operands, library.operands?_eq_knowing, names]

theorem preparatory_of_subset (converted : Operand.ofArguments inst.args = .ok os)
    {calls : List Call}
    (within : calls ⊆ .opcode inst.opcode :: (Script.operands library os).calls) :
    Preparatory inst calls := by
  intro c mem
  rcases List.mem_cons.mp (within mem) with same | here
  · exact .inl same
  · have prepares := Script.prepares_operands here
    rw [Operand.registers_ofArgumentsFrom converted] at prepares
    exact .inr prepares

theorem exists_preparation (known : library.opcode inst.opcode ≠ 0)
    (few : inst.args.length ≤ 5) (converted : Operand.ofArguments inst.args = .ok os)
    (resolved : ∀ r ∈ inst.registers, library.register r ≠ 0) (before : List Call) :
    ∃ calls, Preparatory inst calls ∧
      calls.filterMap Call.operand? = os.map library.operand ∧
      withoutRepeats library before (Script.encode library inst).calls =
        calls ++ (Script.submit library (library.request inst os) inst.params).calls := by
  have taken : (Script.operands library os).result = .ok (os.map library.operand) := by
    rw [result_operands_eq_knowing converted, library.knowing_of_known resolved]
  have plain : ∀ c ∈ (Script.submit library (library.request inst os) inst.params).calls,
      ¬ c.Resolves library :=
    fun c mem resolves => Script.not_isLookup_of_mem_submit mem resolves.isLookup
  refine ⟨withoutRepeats library before
    (.opcode inst.opcode :: (Script.operands library os).calls), ?_, ?_, ?_⟩
  · exact preparatory_of_subset converted (withoutRepeats_sublist _).subset
  · rw [filterMap_operand?_withoutRepeats]
    exact Script.made_operands taken
  · rw [Script.calls_encode_of_converted known few converted, Script.calls_bind_of_ok taken,
      ← List.cons_append, withoutRepeats_append]
    exact congrArg _ (withoutRepeats_of_not_resolves plain)

theorem decided_encode? (library : Library) (inst : Instruction) (before : List Call) :
    Decided library inst (library.encode? inst)
      (withoutRepeats library before (Script.encode library inst).calls) := by
  have judged := judged_encode? library inst
  generalize library.encode? inst = answer at judged
  cases judged with
  | unknownOpcode unknown =>
    rw [Script.calls_encode_of_unknown unknown]
    rw [withoutRepeats_of_not_resolves (by simpa [Call.Resolves] using unknown)]
    exact .unknownOpcode unknown
  | tooManyArguments known many =>
    rw [Script.calls_encode_of_many known many]
    exact .tooManyArguments known many (withoutRepeats_sublist _)
  | argument known few rejected =>
    rw [Script.calls_encode_of_rejected known few rejected]
    have frame := @withoutRepeats_sublist library before [.opcode inst.opcode]
    obtain ⟨earlier, a, after, cause, split, accepted, refused, rfl⟩ :=
      Operand.ofArgumentsFrom_eq_error rejected
    rw [Nat.zero_add]
    rcases Operand.ofArgument_eq_error refused with ⟨value, rfl, rfl⟩ | ⟨_, error, plain, rfl⟩
    · exact .wrongType known few split accepted frame
    · obtain ⟨refusal, index⟩ := error
      obtain ⟨_, rfl⟩ := plain
      exact .refusedArgument known few split accepted refused frame
  | @unknownRegister known few os converted earlier after name split resolved unknown =>
    have failed : (Script.operands library os).result =
        .error (.config (.unknownRegister name)) := by
      rw [result_operands_eq_knowing converted, library.knowing_of_split split resolved unknown]
    obtain ⟨asked, last, calls, same⟩ := Script.failsAtRegister_operands os _ failed
    cases same
    -- The lookup that failed is of an unknown name, so it is made whatever was asked before.
    have final : ∀ seen, withoutRepeats library seen [.register name] = [.register name] :=
      fun _ => withoutRepeats_of_not_resolves (by simpa [Call.Resolves] using unknown)
    have frame : Preparatory inst (withoutRepeats library before (.opcode inst.opcode :: asked)) :=
      preparatory_of_subset converted fun c mem =>
        List.cons_subset_cons _ (calls ▸ List.subset_append_left asked _)
          ((withoutRepeats_sublist _).subset mem)
    rw [Script.calls_encode_of_converted known few converted, Script.calls_bind_of_error failed,
      calls, ← List.cons_append, withoutRepeats_append, final]
    exact .unknownRegister known few (Operand.encodable_of_ofArgumentsFrom converted) split
      resolved unknown frame
  | conversion known few converted resolved refused =>
    obtain ⟨calls, frame, made, all⟩ := exists_preparation known few converted resolved before
    rw [all, Script.calls_submit_of_not_converts refused]
    exact .conversion known few converted resolved refused frame made
  | encoding known few converted resolved taken refused =>
    obtain ⟨calls, frame, made, all⟩ := exists_preparation known few converted resolved before
    rw [all, Script.calls_submit_of_error taken refused, ← List.append_assoc, ← List.append_assoc]
    exact .encoding known few converted resolved taken refused frame made
  | encoded known few converted resolved taken produced =>
    obtain ⟨calls, frame, made, all⟩ := exists_preparation known few converted resolved before
    rw [all, Script.calls_submit_of_ok taken produced, ← List.append_assoc, ← List.append_assoc]
    exact .encoded known few converted resolved taken produced frame made

theorem not_instruction_of_sublist {calls : List Call}
    (frame : calls.Sublist [.opcode inst.opcode]) (request : Request) :
    .instruction request ∉ calls := by
  intro mem
  cases List.mem_singleton.mp (frame.subset mem)

theorem refuser_eq_encoder_iff {answer : Except Failure (List UInt8)} {calls : List Call}
    (h : Decided library inst answer calls) {error : EncodeError}
    (refusal : answer = .error (.refused error)) :
    error.refusal.refuser = .encoder ↔ ∃ request, .instruction request ∈ calls := by
  cases h with
  | tooManyArguments _ _ frame =>
    cases refusal
    exact iff_of_false nofun fun ⟨request, mem⟩ => not_instruction_of_sublist frame request mem
  | refusedArgument _ _ _ _ refused frame =>
    cases refusal
    rw [Operand.refuser_of_refused refused]
    exact iff_of_false nofun fun ⟨request, mem⟩ => not_instruction_of_sublist frame request mem
  | conversion =>
    cases refusal
    exact iff_of_true rfl ⟨_, List.mem_append_right _ List.mem_cons_self⟩
  | @encoding _ _ os =>
    cases refusal
    refine iff_of_true rfl ⟨library.request inst os, ?_⟩
    apply List.mem_append_left
    apply List.mem_append_left
    exact List.mem_append_right _ List.mem_cons_self
  | unknownOpcode => cases refusal
  | wrongType => cases refusal
  | unknownRegister => cases refusal
  | encoded => cases refusal

theorem engine_decides_by_first_fault (library : Library) (earlier : List Query)
    (inst : Instruction) :
    let s := (Query.askAll library earlier .start).2
    let run := (Engine.encode library inst).runOn s
    ∃ calls, run.2.trace = s.trace ++ calls ∧ Decided library inst run.1 calls ∧
      ∀ error, run.1 = .error (.refused error) →
        (error.refusal.refuser = .encoder ↔ ∃ request, .instruction request ∈ calls) := by
  intro s run
  have exact_s : s.Exact library := Query.exact_askAll earlier
  have performed : run = (library.encode? inst,
      s.makeAll library (Script.encode library inst).calls) := by
    rw [← Script.result_encode]
    exact Engine.follows_encode inst s exact_s.faithful
  have decided := decided_encode? library inst s.calls
  rw [performed]
  exact ⟨_, Session.trace_makeAll exact_s _, decided, fun _ => refuser_eq_encoder_iff decided⟩

end Decision

end AsmFixtures.Encoder
