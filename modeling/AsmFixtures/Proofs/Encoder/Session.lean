import AsmFixtures.Encoder.Engine

/-! What an engine computes. A script says what an engine without memory would do: the calls
it makes and what comes of them. The numbers that an engine remembers came from the library,
so whatever it has learned so far, it gives the result of the script; only the lookups that it
need not repeat are left out of the calls. The library alone fixes the answer to each call. -/

namespace AsmFixtures.Encoder

namespace Library

def opcode? (library : Library) (name : String) : Except Failure Nat :=
  if library.opcode name = 0 then .error (.config (.unknownOpcode name))
  else .ok (library.opcode name)

def register? (library : Library) : Option String → Except Failure Nat
  | none => .ok 0
  | some name =>
    if library.register name = 0 then .error (.config (.unknownRegister name))
    else .ok (library.register name)

def operand? (library : Library) : Operand → Except Failure LibraryOperand
  | .reg name => do return .reg (← library.register? (some name))
  | .imm value bits signed =>
    .ok (if signed then .signedImmediate value bits else .unsignedImmediate value bits)
  | .mem base index scale disp dispBits width => do
    let baseNumber ← library.register? base
    let indexNumber ← library.register? index
    return .memory baseNumber indexNumber scale (Engine.extended disp) dispBits width

def operands? (library : Library) : List Operand → Except Failure (List LibraryOperand)
  | [] => .ok []
  | o :: rest => do
    let first ← library.operand? o
    let others ← library.operands? rest
    return first :: others

def bytes? (library : Library) (request : Request) (params : List Param) :
    Except Failure (List UInt8) :=
  if ! library.converts request then .error (.refused ⟨.requestConversion, none⟩)
  else
    match library.encode (request.overrideAll params) with
    | .ok bytes => .ok bytes
    | .error text => .error (.refused ⟨.encoding text, none⟩)

def encode? (library : Library) (inst : Instruction) : Except Failure (List UInt8) := do
  let number ← library.opcode? inst.opcode
  if Engine.maxArgs < inst.args.length then
    throw (.refused ⟨.tooManyArguments inst.args.length, none⟩)
  else
    match Operand.ofArguments inst.args with
    | .error e => throw (.ofArgumentError e)
    | .ok converted =>
      let taken ← library.operands? converted
      library.bytes? ⟨number, operandSize inst.params, taken, none, none⟩ inst.params

end Library

/-- What a session remembers is what the library would answer, and no failed lookup. -/
structure Session.Faithful (library : Library) (s : Session) : Prop where
  opcode : ∀ name number, s.opcodes.lookup name = some number →
    library.opcode name = number ∧ number ≠ 0
  register : ∀ name number, s.registers.lookup name = some number →
    library.register name = number ∧ number ≠ 0

namespace Session

variable {library : Library}

theorem faithful_start : start.Faithful library where
  opcode name number h := by simp [start] at h
  register name number h := by simp [start] at h

theorem faithful_record {s : Session} (h : s.Faithful library) (call : Call) :
    (s.record call).Faithful library := ⟨h.opcode, h.register⟩

theorem agrees_cons {numbering : String → Nat} {known : List (String × Nat)} {name : String}
    (h : ∀ other number, known.lookup other = some number →
      numbering other = number ∧ number ≠ 0) (found : numbering name ≠ 0) :
    ∀ other number, ((name, numbering name) :: known).lookup other = some number →
      numbering other = number ∧ number ≠ 0 := by
  intro other number here
  by_cases same : other = name
  · subst same
    have learned : numbering other = number := by simpa using here
    exact ⟨learned, learned ▸ found⟩
  · have apart : (other == name) = false := by simp [same]
    have older : known.lookup other = some number := by simpa [List.lookup_cons, apart] using here
    exact h other number older

theorem faithful_learnOpcode {s : Session} (h : s.Faithful library) {name : String}
    (found : library.opcode name ≠ 0) :
    (s.learnOpcode name (library.opcode name)).Faithful library :=
  ⟨agrees_cons h.opcode found, h.register⟩

theorem faithful_learnRegister {s : Session} (h : s.Faithful library) {name : String}
    (found : library.register name ≠ 0) :
    (s.learnRegister name (library.register name)).Faithful library :=
  ⟨h.opcode, agrees_cons h.register found⟩

end Session

namespace Engine

variable {α β : Type}

@[simp] theorem runOn_pure (a : α) (s : Session) :
    (pure a : Engine α).runOn s = (.ok a, s) := rfl

@[simp] theorem runOn_throw (e : Failure) (s : Session) :
    (throw e : Engine α).runOn s = (.error e, s) := rfl

@[simp] theorem runOn_get (s : Session) : (get : Engine Session).runOn s = (.ok s, s) := rfl

@[simp] theorem runOn_modify (f : Session → Session) (s : Session) :
    (modify f : Engine Unit).runOn s = (.ok (), f s) := rfl

@[simp] theorem runOn_bind (action : Engine α) (next : α → Engine β) (s : Session) :
    (action >>= next).runOn s =
      match action.runOn s with
      | (.ok a, after) => (next a).runOn after
      | (.error e, after) => (.error e, after) := by
  change (action.run >>= ExceptT.bindCont next).run s = _
  simp only [StateT.run_bind, runOn]
  rcases action.run.run s with ⟨_ | a, after⟩ <;> rfl

@[simp] theorem runOn_map (f : α → β) (action : Engine α) (s : Session) :
    (f <$> action).runOn s = ((action.runOn s).1.map f, (action.runOn s).2) := by
  rw [map_eq_pure_bind, runOn_bind]
  rcases action.runOn s with ⟨_ | a, after⟩ <;> rfl

end Engine

def Call.IsLookup : Call → Prop
  | .opcode _ | .register _ => True
  | _ => False

/-- What an engine without memory does: the calls it makes, in order, and what comes of
them. -/
structure Script (α : Type) where
  calls : List Call
  result : Except Failure α

namespace Script

variable {α β : Type}

protected def bind (script : Script α) (next : α → Script β) : Script β :=
  match script.result with
  | .ok a => ⟨script.calls ++ (next a).calls, (next a).result⟩
  | .error e => ⟨script.calls, .error e⟩

instance : Monad Script where
  pure a := ⟨[], .ok a⟩
  bind := Script.bind

def fail (e : Failure) : Script α := ⟨[], .error e⟩

def callAll (calls : List Call) : Script Unit := ⟨calls, .ok ()⟩

def call (c : Call) : Script Unit := callAll [c]

@[simp] theorem result_pure (a : α) : (pure a : Script α).result = .ok a := rfl

@[simp] theorem result_bind (script : Script α) (next : α → Script β) :
    (script >>= next).result = script.result >>= fun a => (next a).result := by
  rcases script with ⟨calls, _ | a⟩ <;> rfl

variable (library : Library)

def opcode (name : String) : Script Nat := ⟨[.opcode name], library.opcode? name⟩

def register : Option String → Script Nat
  | none => pure 0
  | some name => ⟨[.register name], library.register? (some name)⟩

def make (o : LibraryOperand) : Script LibraryOperand := do
  call (.operand o)
  return o

def operand : Operand → Script LibraryOperand
  | .reg name => do
    let number ← register library (some name)
    make (.reg number)
  | .imm value bits signed =>
    make (if signed then .signedImmediate value bits else .unsignedImmediate value bits)
  | .mem base index scale disp dispBits width => do
    let baseNumber ← register library base
    let indexNumber ← register library index
    make (.memory baseNumber indexNumber scale (Engine.extended disp) dispBits width)

def operands : List Operand → Script (List LibraryOperand)
  | [] => pure []
  | o :: rest => do
    let first ← operand library o
    let others ← operands rest
    return first :: others

def submit (request : Request) (params : List Param) : Script (List UInt8) := do
  call (.instruction request)
  call .setMode
  call (.convert request)
  if ! library.converts request then fail (.refused ⟨.requestConversion, none⟩)
  else
    callAll (params.filterMap overrideCall?)
    let final := request.overrideAll params
    call (.encode final)
    match library.encode final with
    | .ok bytes => return bytes
    | .error text =>
      call .errorText
      fail (.refused ⟨.encoding text, none⟩)

def encode (inst : Instruction) : Script (List UInt8) := do
  let number ← opcode library inst.opcode
  if Engine.maxArgs < inst.args.length then
    fail (.refused ⟨.tooManyArguments inst.args.length, none⟩)
  else
    match Operand.ofArguments inst.args with
    | .error e => fail (.ofArgumentError e)
    | .ok converted =>
      let taken ← operands library converted
      submit library ⟨number, operandSize inst.params, taken, none, none⟩ inst.params

theorem result_register (name : Option String) :
    (register library name).result = library.register? name := by
  cases name <;> rfl

theorem result_operand (o : Operand) : (operand library o).result = library.operand? o := by
  cases o <;> simp only [operand, Library.operand?, result_bind, result_register] <;> rfl

theorem result_operands (os : List Operand) :
    (operands library os).result = library.operands? os := by
  induction os with
  | nil => rfl
  | cons o rest ih =>
    simp only [operands, Library.operands?, result_bind, result_pure, result_operand, ih]
    rfl

theorem result_submit (request : Request) (params : List Param) :
    (submit library request params).result = library.bytes? request params := by
  unfold submit Library.bytes?
  cases library.converts request with
  | false => rfl
  | true =>
    dsimp only [Bool.not_true]
    cases library.encode (request.overrideAll params) <;> rfl

theorem result_encode (inst : Instruction) :
    (encode library inst).result = library.encode? inst := by
  unfold encode Library.encode?
  rw [result_bind]
  congr 1
  funext number
  split
  · rfl
  · cases Operand.ofArguments inst.args with
    | error e => rfl
    | ok converted => simp only [result_bind, result_operands, result_submit]

end Script

namespace Session

variable {library : Library}

def knows (s : Session) : Call → Bool
  | .opcode name => (s.opcodes.lookup name).isSome
  | .register name => (s.registers.lookup name).isSome
  | _ => false

def learn (library : Library) (s : Session) : Call → Session
  | .opcode name =>
    if library.opcode name = 0 then s else s.learnOpcode name (library.opcode name)
  | .register name =>
    if library.register name = 0 then s else s.learnRegister name (library.register name)
  | _ => s

def make (library : Library) (s : Session) (c : Call) : Session :=
  if s.knows c then s else (s.record c).learn library c

theorem make_of_not_isLookup {c : Call} (plain : ¬ c.IsLookup) (s : Session) :
    s.make library c = s.record c := by
  cases c with
  | opcode name => exact absurd trivial plain
  | register name => exact absurd trivial plain
  | _ => rfl

def makeAll (library : Library) (s : Session) (calls : List Call) : Session :=
  calls.foldl (make library) s

theorem makeAll_append (s : Session) (first second : List Call) :
    s.makeAll library (first ++ second) = (s.makeAll library first).makeAll library second :=
  List.foldl_append

theorem faithful_learn {s : Session} (h : s.Faithful library) (c : Call) :
    (s.learn library c).Faithful library := by
  unfold learn
  split
  · split
    · exact h
    · exact faithful_learnOpcode h ‹_›
  · split
    · exact h
    · exact faithful_learnRegister h ‹_›
  · exact h

theorem faithful_make {s : Session} (h : s.Faithful library) (c : Call) :
    (s.make library c).Faithful library := by
  unfold make
  split
  · exact h
  · exact faithful_learn (faithful_record h c) c

theorem faithful_makeAll {s : Session} (h : s.Faithful library) (calls : List Call) :
    (s.makeAll library calls).Faithful library := by
  induction calls generalizing s with
  | nil => exact h
  | cons c rest ih => exact ih (faithful_make h c)

end Session

namespace Engine

variable {α β : Type} {library : Library}

/-- An action gives the result of a script and makes its calls, as far as they are not known
already. -/
def Follows (library : Library) (action : Engine α) (script : Script α) : Prop :=
  ∀ s, s.Faithful library → action.runOn s = (script.result, s.makeAll library script.calls)

theorem follows_pure (a : α) : Follows library (pure a) (pure a) := fun _ _ => rfl

theorem follows_throw (e : Failure) :
    Follows library (throw e : Engine α) (Script.fail e) := fun _ _ => rfl

theorem follows_bind {action : Engine α} {script : Script α} {next : α → Engine β}
    {more : α → Script β} (first : Follows library action script)
    (rest : ∀ a, Follows library (next a) (more a)) :
    Follows library (action >>= next) (script >>= more) := by
  intro s h
  rw [runOn_bind, first s h]
  rcases script with ⟨calls, e | a⟩
  · rfl
  · change (next a).runOn (s.makeAll library calls) = _
    rw [rest a _ (Session.faithful_makeAll h calls), ← Session.makeAll_append]
    rfl

theorem follows_call {c : Call} (plain : ¬ c.IsLookup) :
    Follows library (call c) (Script.call c) := by
  intro s _
  exact congrArg (Except.ok (), ·) (Session.make_of_not_isLookup plain s).symm

theorem follows_callAll {calls : List Call} (plain : ∀ c ∈ calls, ¬ c.IsLookup) :
    Follows library (callAll calls) (Script.callAll calls) := by
  induction calls with
  | nil => exact follows_pure ()
  | cons c rest ih =>
    have others := ih fun d mem => plain d (List.mem_cons_of_mem _ mem)
    exact follows_bind (follows_call (plain c List.mem_cons_self)) fun _ => others

theorem follows_recall {known : Session → Option Nat} {learn : Session → Session}
    {number : Nat} {failure : Failure} {c : Call}
    (agrees : ∀ s, s.Faithful library → ∀ kept, known s = some kept → number = kept ∧ kept ≠ 0)
    (knows : ∀ s : Session, s.knows c = (known s).isSome)
    (learns : ∀ s : Session, s.learn library c = if number = 0 then s else learn s) :
    Follows library
      (get >>= fun s => match known s with
        | some kept => pure kept
        | none => call c >>= fun _ =>
          if number = 0 then throw failure else modify learn >>= fun _ => pure number)
      ⟨[c], if number = 0 then .error failure else .ok number⟩ := by
  intro s h
  change _ = (_, s.make library c)
  unfold Session.make
  cases here : known s with
  | some kept =>
    obtain ⟨rfl, found⟩ := agrees s h kept here
    simp [knows, here, found]
  | none =>
    by_cases unknown : number = 0
    · simp [call, knows, learns, here, unknown]
    · simp [call, knows, learns, here, unknown, Except.map]

theorem follows_opcode (name : String) :
    Follows library (opcode library name) (Script.opcode library name) :=
  follows_recall (fun _ h => h.opcode name) (fun _ => rfl) fun _ => rfl

theorem follows_register (name : Option String) :
    Follows library (register library name) (Script.register library name) := by
  cases name with
  | none => exact follows_pure 0
  | some name =>
    exact follows_recall (fun _ h => h.register name) (fun _ => rfl) fun _ => rfl

theorem follows_make (o : LibraryOperand) : Follows library (make o) (Script.make o) :=
  follows_bind (follows_call id) fun _ => follows_pure o

theorem follows_operand (o : Operand) :
    Follows library (operand library o) (Script.operand library o) := by
  cases o with
  | reg name => exact follows_bind (follows_register _) fun _ => follows_make _
  | imm value bits signed => exact follows_make _
  | mem base index scale disp dispBits width =>
    apply follows_bind (follows_register base)
    intro baseNumber
    apply follows_bind (follows_register index)
    intro indexNumber
    exact follows_make _

theorem follows_operands (os : List Operand) :
    Follows library (operands library os) (Script.operands library os) := by
  induction os with
  | nil => exact follows_pure []
  | cons o rest ih =>
    apply follows_bind (follows_operand o)
    intro first
    apply follows_bind ih
    intro others
    exact follows_pure _

theorem not_isLookup_of_mem_overrides {params : List Param} {c : Call}
    (h : c ∈ params.filterMap overrideCall?) : ¬ c.IsLookup := by
  obtain ⟨p, _, made⟩ := List.mem_filterMap.mp h
  cases p <;> cases made <;> exact id

theorem follows_submit (request : Request) (params : List Param) :
    Follows library (submit library request params) (Script.submit library request params) := by
  unfold submit Script.submit
  apply follows_bind (follows_call id)
  intro _
  apply follows_bind (follows_call id)
  intro _
  apply follows_bind (follows_call id)
  intro _
  split
  · exact follows_throw _
  · apply follows_bind (follows_callAll fun _ => not_isLookup_of_mem_overrides)
    intro _
    apply follows_bind (follows_call id)
    intro _
    cases library.encode (request.overrideAll params) with
    | ok bytes => exact follows_pure bytes
    | error text => exact follows_bind (follows_call id) fun _ => follows_throw _

theorem follows_encode (inst : Instruction) :
    Follows library (encode library inst) (Script.encode library inst) := by
  unfold encode Script.encode
  apply follows_bind (follows_opcode _)
  intro number
  split
  · exact follows_throw _
  · cases Operand.ofArguments inst.args with
    | error e => exact follows_throw _
    | ok converted =>
      apply follows_bind (follows_operands converted)
      intro taken
      exact follows_submit _ _

end Engine

end AsmFixtures.Encoder
