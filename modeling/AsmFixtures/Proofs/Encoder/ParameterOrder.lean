import AsmFixtures.Proofs.Encoder.Decision
import AsmFixtures.Proofs.Variant

/-! The order of the parameters. An engine takes the parameters of an instruction one after the
other, for the operand size and again for the fields that they override. The last of a family
would count; but where each family has at most one parameter, and as the fields are independent
of each other, the order makes no difference: neither to the answer, nor to what the setters of
a library leave of a request. -/

namespace AsmFixtures.Encoder

variable {params other : List Param}

theorem operandSize_perm (one : OnePerFamily params) (perm : params.Perm other) :
    operandSize params = operandSize other := by
  refine perm.foldl_eq' (fun p hp q hq size => ?_) 32
  rcases one.eq_or_apart hp hq with rfl | apart
  · rfl
  · cases p <;> cases q <;> first | rfl | exact absurd rfl apart

/-- The last of two parameters of a family would count. -/
example : operandSize [.eosz64, .eosz16] ≠ operandSize [.eosz16, .eosz64] := by decide

theorem operandSize_of_mem (one : OnePerFamily params) {p : Param} (mem : p ∈ params) {size : Nat}
    (told : p.operandSize? = some size) : operandSize params = size := by
  have last : params.Perm (params.erase p ++ [p]) :=
    (List.perm_cons_erase mem).trans (List.perm_append_singleton p _).symm
  rw [operandSize_perm one last, operandSize, List.foldl_append]
  simp [told]

theorem operandSize_of_none (none : ∀ p ∈ params, p.operandSize? = none) :
    operandSize params = 32 := by
  unfold operandSize
  induction params with
  | nil => rfl
  | cons p rest ih =>
    obtain ⟨first, later⟩ := List.forall_mem_cons.mp none
    rw [List.foldl_cons, first]
    exact ih later

structure SizedBy (params : List Param) (size : Nat) : Prop where
  told : ∀ p ∈ params, ∀ bits, p.operandSize? = some bits → size = bits
  untold : (∀ p ∈ params, p.operandSize? = none) → size = 32

theorem sizedBy_operandSize (one : OnePerFamily params) : SizedBy params (operandSize params) where
  told _ mem _ bits := operandSize_of_mem one mem bits
  untold := operandSize_of_none

/-- A library's setters for the two fields. Its requests are of a type of its own; all that is
known is that the fields are independent of each other. -/
structure Setters (ρ : Type) where
  rexw : Nat → ρ → ρ
  vectorLength : Nat → ρ → ρ
  independent : ∀ bit length x,
    rexw bit (vectorLength length x) = vectorLength length (rexw bit x)

namespace Setters

variable {ρ : Type} (setters : Setters ρ)

def apply (x : ρ) : Call → ρ
  | .overrideRexw bit => setters.rexw bit x
  | .overrideVectorLength length => setters.vectorLength length x
  | _ => x

theorem apply_overrides_perm (one : OnePerFamily params) (perm : params.Perm other) (x : ρ) :
    (params.filterMap overrideCall?).foldl setters.apply x =
      (other.filterMap overrideCall?).foldl setters.apply x := by
  rw [List.foldl_filterMap, List.foldl_filterMap]
  refine perm.foldl_eq' (fun p hp q hq x => ?_) x
  rcases one.eq_or_apart hp hq with rfl | apart
  · rfl
  · cases p <;> cases q <;>
      first
        | rfl
        | exact absurd rfl apart
        | exact setters.independent _ _ x
        | exact (setters.independent _ _ x).symm

def request : Setters Request where
  rexw bit r := { r with rexw := some bit }
  vectorLength length r := { r with vectorLength := some length }
  independent _ _ _ := rfl

theorem overrideAll_eq (r : Request) (params : List Param) :
    r.overrideAll params = (params.filterMap overrideCall?).foldl request.apply r := by
  rw [List.foldl_filterMap, Request.overrideAll]
  congr 1
  funext r p
  cases p <;> rfl

end Setters

theorem Request.overrideAll_perm (one : OnePerFamily params) (perm : params.Perm other)
    (r : Request) : r.overrideAll params = r.overrideAll other := by
  rw [Setters.overrideAll_eq, Setters.overrideAll_eq, Setters.request.apply_overrides_perm one perm]

theorem Request.operandSize_overrideAll (r : Request) (params : List Param) :
    (r.overrideAll params).operandSize = r.operandSize := by
  unfold overrideAll
  induction params generalizing r with
  | nil => rfl
  | cons p rest ih => exact ih (r.override p)

theorem Library.encode?_perm (library : Library) (inst : Instruction)
    (one : OnePerFamily inst.params) (perm : inst.params.Perm params) :
    library.encode? { inst with params := params } = library.encode? inst := by
  simp only [encode?, bytes?, operandSize_perm one perm, Request.overrideAll_perm one perm]

def Call.request? : Call → Option Request
  | .instruction request | .convert request | .encode request => some request
  | _ => none

def Call.Preparing : Call → Prop
  | .opcode _ | .register _ | .operand _ => True
  | _ => False

theorem Call.Preparing.request?_eq_none {c : Call} (h : c.Preparing) : c.request? = none := by
  cases c <;> first | rfl | exact h.elim

theorem Call.Preparing.apply_eq {c : Call} (h : c.Preparing) {ρ : Type} (setters : Setters ρ)
    (x : ρ) : setters.apply x c = x := by
  cases c <;> first | rfl | exact h.elim

theorem foldl_of_preparing {calls : List Call} (preparing : ∀ c ∈ calls, c.Preparing) {ρ : Type}
    (setters : Setters ρ) (x : ρ) : calls.foldl setters.apply x = x := by
  induction calls with
  | nil => rfl
  | cons c rest ih =>
    obtain ⟨first, later⟩ := List.forall_mem_cons.mp preparing
    rw [List.foldl_cons, first.apply_eq]
    exact ih later

def overridden : Except Failure (List UInt8) → Bool
  | .ok _ | .error (.refused ⟨.encoding _, none⟩) => true
  | _ => false

namespace Script

variable {library : Library} {request : Request}

theorem operandSize_of_mem_submit {c : Call}
    (mem : c ∈ (submit library request params).calls) {r : Request}
    (told : c.request? = some r) : r.operandSize = request.operandSize := by
  have override : c ∉ params.filterMap overrideCall? := by
    intro here
    obtain ⟨p, _, made⟩ := List.mem_filterMap.mp here
    cases p <;> cases made <;> cases told
  have final := request.operandSize_overrideAll params
  cases taken : library.converts request with
  | false =>
    rw [calls_submit_of_not_converts taken] at mem
    cases c <;> simp_all [Call.request?]
  | true =>
    cases answer : library.encode (request.overrideAll params) with
    | error text =>
      rw [calls_submit_of_error taken answer] at mem
      cases c <;> simp_all [Call.request?]
    | ok bytes =>
      rw [calls_submit_of_ok taken answer] at mem
      cases c <;> simp_all [Call.request?]

theorem encode_mem_submit {bytes : List UInt8}
    (success : (submit library request params).result = .ok bytes) :
    ∃ r, .encode r ∈ (submit library request params).calls ∧ library.encode r = .ok bytes := by
  rw [result_submit, Library.bytes?] at success
  cases taken : library.converts request with
  | false => simp [taken] at success
  | true =>
    cases answer : library.encode (request.overrideAll params) with
    | error text => simp [taken, answer] at success
    | ok produced =>
      obtain rfl : produced = bytes := by simpa [taken, answer] using success
      rw [calls_submit_of_ok taken answer]
      exact ⟨_, by simp, answer⟩

theorem foldl_submit {ρ : Type} (setters : Setters ρ) (x : ρ) :
    (submit library request params).calls.foldl setters.apply x =
      if overridden (submit library request params).result then
        (params.filterMap overrideCall?).foldl setters.apply x
      else x := by
  rw [result_submit, Library.bytes?]
  cases taken : library.converts request with
  | false =>
    rw [calls_submit_of_not_converts taken]
    rfl
  | true =>
    cases answer : library.encode (request.overrideAll params) with
    | error text =>
      rw [calls_submit_of_error taken answer, List.foldl_append, List.foldl_append]
      rfl
    | ok bytes =>
      rw [calls_submit_of_ok taken answer, List.foldl_append, List.foldl_append]
      rfl

end Script

section Submission

variable {library : Library} {inst : Instruction} {answer : Except Failure (List UInt8)}
  {calls : List Call}

/-- An instruction is submitted, after calls that only prepare it, or it is never. -/
theorem preparing_or_submitted (h : Decided library inst answer calls) :
    ((∀ c ∈ calls, c.Preparing) ∧ overridden answer = false) ∨
      ∃ before request, (∀ c ∈ before, c.Preparing) ∧
        request.operandSize = operandSize inst.params ∧
        calls = before ++ (Script.submit library request inst.params).calls ∧
        answer = (Script.submit library request inst.params).result := by
  have looked : ∀ {calls : List Call}, calls.Sublist [.opcode inst.opcode] →
      ∀ c ∈ calls, c.Preparing := by
    intro calls frame c mem
    rw [List.mem_singleton.mp (frame.subset mem)]
    trivial
  have prepared : ∀ {calls : List Call}, Preparatory inst calls → ∀ c ∈ calls, c.Preparing := by
    intro calls frame c mem
    rcases frame c mem with rfl | prepares
    · trivial
    · cases prepares <;> trivial
  cases h with
  | unknownOpcode => exact .inl ⟨looked (.refl _), rfl⟩
  | tooManyArguments _ _ frame => exact .inl ⟨looked frame, rfl⟩
  | @refusedArgument _ _ _ _ _ refusal _ _ _ _ frame =>
    exact .inl ⟨looked frame, by cases refusal <;> rfl⟩
  | wrongType _ _ _ _ frame => exact .inl ⟨looked frame, rfl⟩
  | unknownRegister _ _ _ _ _ _ frame =>
    refine .inl ⟨fun c mem => ?_, rfl⟩
    rcases List.mem_append.mp mem with here | last
    · exact prepared frame c here
    · rw [List.mem_singleton.mp last]
      trivial
  | @conversion _ _ os _ _ refused before frame =>
    refine .inr ⟨before, library.request inst os, prepared frame, rfl, ?_, ?_⟩
    · rw [Script.calls_submit_of_not_converts refused]
      rfl
    · simp [Script.result_submit, Library.bytes?, refused]
  | @encoding _ _ os _ _ taken text refused before frame =>
    refine .inr ⟨before, library.request inst os, prepared frame, rfl, ?_, ?_⟩
    · rw [Script.calls_submit_of_error taken refused, List.append_assoc, List.append_assoc]
      rfl
    · simp [Script.result_submit, Library.bytes?, taken, refused]
  | @encoded _ _ os _ _ taken bytes produced before frame =>
    refine .inr ⟨before, library.request inst os, prepared frame, rfl, ?_, ?_⟩
    · rw [Script.calls_submit_of_ok taken produced, List.append_assoc, List.append_assoc]
      rfl
    · simp [Script.result_submit, Library.bytes?, taken, produced]

theorem operandSize_of_decided (h : Decided library inst answer calls) {c : Call}
    (mem : c ∈ calls) {r : Request} (told : c.request? = some r) :
    r.operandSize = operandSize inst.params := by
  rcases preparing_or_submitted h with ⟨preparing, _⟩ | ⟨before, request, prepared, size, rfl, _⟩
  · simp [(preparing c mem).request?_eq_none] at told
  · rcases List.mem_append.mp mem with here | submitted
    · simp [(prepared c here).request?_eq_none] at told
    · rw [← size, Script.operandSize_of_mem_submit submitted told]

theorem encode_mem_of_decided {bytes : List UInt8} (h : Decided library inst (.ok bytes) calls) :
    ∃ r, .encode r ∈ calls ∧ library.encode r = .ok bytes := by
  rcases preparing_or_submitted h with ⟨_, never⟩ | ⟨before, request, _, _, rfl, success⟩
  · cases never
  · obtain ⟨r, mem, produced⟩ := Script.encode_mem_submit success.symm
    exact ⟨r, List.mem_append_right before mem, produced⟩

theorem foldl_of_decided (h : Decided library inst answer calls) {ρ : Type}
    (setters : Setters ρ) (x : ρ) :
    calls.foldl setters.apply x =
      if overridden answer then (inst.params.filterMap overrideCall?).foldl setters.apply x
      else x := by
  rcases preparing_or_submitted h with ⟨preparing, never⟩ | ⟨before, request, prepared, _, rfl, rfl⟩
  · rw [never, foldl_of_preparing preparing]
    rfl
  · rw [List.foldl_append, foldl_of_preparing prepared, Script.foldl_submit]

end Submission

structure Engine.Ordered (library : Library) (s : Session) (inst : Instruction)
    (params : List Param) (calls : List Call) : Prop where
  answer : ((Engine.encode library { inst with params := params }).runOn s).1 =
    library.encode? inst
  trace : ((Engine.encode library { inst with params := params }).runOn s).2.trace =
    s.trace ++ calls
  sized : ∀ c ∈ calls, ∀ r, c.request? = some r → SizedBy inst.params r.operandSize
  encoded : ∀ bytes, library.encode? inst = .ok bytes →
    ∃ r, .encode r ∈ calls ∧ library.encode r = .ok bytes
  overrides : ∀ {ρ : Type} (setters : Setters ρ) (x : ρ), calls.foldl setters.apply x =
    if overridden (library.encode? inst) then
      (inst.params.filterMap overrideCall?).foldl setters.apply x
    else x

theorem Engine.exists_ordered (library : Library) (earlier : List Query) (inst : Instruction)
    (one : OnePerFamily inst.params) (perm : inst.params.Perm params) :
    ∃ calls, Ordered library (Query.askAll library earlier .start).2 inst params calls := by
  have exact_s : (Query.askAll library earlier .start).2.Exact library :=
    Query.exact_askAll earlier
  have same := library.encode?_perm inst one perm
  have run := @follows_encode library { inst with params := params } _ exact_s.faithful
  have trace := Session.trace_makeAll exact_s
    (Script.encode library { inst with params := params }).calls
  have decided := decided_encode? library { inst with params := params }
    (Query.askAll library earlier .start).2.calls
  rw [Script.result_encode, same] at run
  rw [same] at decided
  have after := congrArg Prod.snd run
  dsimp only at after
  rw [← after] at trace
  refine ⟨_, congrArg Prod.fst run, trace, ?_, ?_, ?_⟩
  · intro c mem r told
    rw [operandSize_of_decided decided mem told, ← operandSize_perm one perm]
    exact sizedBy_operandSize one
  · intro bytes success
    rw [success] at decided
    exact encode_mem_of_decided decided
  · intro ρ setters x
    rw [foldl_of_decided decided, setters.apply_overrides_perm one perm]

end AsmFixtures.Encoder
