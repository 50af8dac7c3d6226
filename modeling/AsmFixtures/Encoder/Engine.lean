import AsmFixtures.ConfigError
import AsmFixtures.Encoder.Library
import AsmFixtures.Operand

/-! An engine encodes instructions with a library. It remembers the numbers of the names
that the library knew, so each of them is looked up once; a name that was not known is
looked up again. What an engine has learned stays when a call fails. -/

namespace AsmFixtures.Encoder

inductive Failure
  | config (cause : ConfigError)
  | refused (cause : EncodeError)
  | argumentType (typeName : String)
  | operandType (typeName : String)

namespace Failure

def message : Failure → String
  | config cause => cause.message
  | refused cause => cause.message
  | argumentType typeName => (ArgumentError.wrongType typeName).message
  | operandType typeName => "invalid operand type: " ++ typeName

def ofArgumentError : ArgumentError → Failure
  | .encode error => refused error
  | .wrongType typeName => argumentType typeName

end Failure

/-- The numbers learned so far, and the calls made, the latest first. -/
structure Session where
  opcodes : List (String × Nat) := []
  registers : List (String × Nat) := []
  calls : List Call := []

namespace Session

def start : Session := { calls := [.zeroState, .initTables] }

def trace (s : Session) : List Call := s.calls.reverse

def record (s : Session) (call : Call) : Session := { s with calls := call :: s.calls }

def learnOpcode (s : Session) (name : String) (number : Nat) : Session :=
  { s with opcodes := (name, number) :: s.opcodes }

def learnRegister (s : Session) (name : String) (number : Nat) : Session :=
  { s with registers := (name, number) :: s.registers }

end Session

/-- A computation with an engine. The session is kept whether it fails or not. -/
abbrev Engine := ExceptT Failure (StateM Session)

namespace Engine

def call (c : Call) : Engine Unit := modify (·.record c)

def callAll : List Call → Engine Unit
  | [] => return ()
  | c :: rest => do
    call c
    callAll rest

def opcode (library : Library) (name : String) : Engine Nat := do
  match (← get).opcodes.lookup name with
  | some number => return number
  | none =>
    call (.opcode name)
    let number := library.opcode name
    if number = 0 then throw (.config (.unknownOpcode name))
    else
      modify (·.learnOpcode name number)
      return number

/-- An absent register has the number zero and is not looked up. -/
def register (library : Library) : Option String → Engine Nat
  | none => return 0
  | some name => do
    match (← get).registers.lookup name with
    | some number => return number
    | none =>
      call (.register name)
      let number := library.register name
      if number = 0 then throw (.config (.unknownRegister name))
      else
        modify (·.learnRegister name number)
        return number

def extended (disp : Int) : Nat := (disp % Int.pow 2 64).toNat

def make (o : LibraryOperand) : Engine LibraryOperand := do
  call (.operand o)
  return o

def operand (library : Library) : Operand → Engine LibraryOperand
  | .reg name => do
    let number ← register library (some name)
    make (.reg number)
  | .imm value bits signed =>
    make (if signed then .signedImmediate value bits else .unsignedImmediate value bits)
  | .mem base index scale disp dispBits width => do
    let baseNumber ← register library base
    let indexNumber ← register library index
    make (.memory baseNumber indexNumber scale (extended disp) dispBits width)

def operands (library : Library) : List Operand → Engine (List LibraryOperand)
  | [] => return []
  | o :: rest => do
    let first ← operand library o
    let others ← operands library rest
    return first :: others

def foreignOperand (value : Datum) : Engine LibraryOperand :=
  throw (.operandType value.typeName)

/-- The library builds instructions of at most this many operands. -/
def maxArgs : Nat := 5

/-- Asks for the bytes of a request, which the library may refuse twice: when it takes
the instruction, and when it encodes it. -/
def submit (library : Library) (request : Request) (params : List Param) :
    Engine (List UInt8) := do
  call (.instruction request)
  call .setMode
  call (.convert request)
  if ! library.converts request then throw (.refused ⟨.requestConversion, none⟩)
  else
    callAll (params.filterMap overrideCall?)
    let final := request.overrideAll params
    call (.encode final)
    match library.encode final with
    | .ok bytes => return bytes
    | .error text =>
      call .errorText
      throw (.refused ⟨.encoding text, none⟩)

/-- All arguments are converted before the first register is looked up. -/
def encode (library : Library) (inst : Instruction) : Engine (List UInt8) := do
  let number ← opcode library inst.opcode
  if maxArgs < inst.args.length then
    throw (.refused ⟨.tooManyArguments inst.args.length, none⟩)
  else
    match Operand.ofArguments inst.args with
    | .error e => throw (.ofArgumentError e)
    | .ok converted =>
      let taken ← operands library converted
      submit library ⟨number, operandSize inst.params, taken, none, none⟩ inst.params

def runOn {α : Type} (action : Engine α) (s : Session) : Except Failure α × Session :=
  (action.run).run s

end Engine

def hexText (bytes : List UInt8) : String :=
  String.ofList (bytes.flatMap fun b => Text.hexDigits 2 b.toNat)

end AsmFixtures.Encoder
