import AsmFixtures.Instruction

/-! The library that does the encoding, as it is seen from here: it numbers opcodes and
registers, and it turns a request into bytes or refuses it. A number of zero means that
a name is not known. Nothing is assumed of the answers, only that they depend on what
was asked. -/

namespace AsmFixtures.Encoder

/-- Operands in the library's terms. A displacement is given modulo `2 ^ 64`. -/
inductive LibraryOperand
  | reg (number : Nat)
  | unsignedImmediate (value : Int) (bits : Nat)
  | signedImmediate (value : Int) (bits : Nat)
  | memory (base index scale disp dispBits : Nat) (width : Int)
deriving DecidableEq

/-- An overridden bit field replaces what the library would choose. -/
structure Request where
  opcode : Nat
  operandSize : Nat
  operands : List LibraryOperand
  rexw : Option Nat := none
  vectorLength : Option Nat := none
deriving DecidableEq

structure Library where
  opcode : String → Nat
  register : String → Nat
  converts : Request → Bool
  encode : Request → Except String (List UInt8)

inductive Call
  | initTables
  | zeroState
  | opcode (name : String)
  | register (name : String)
  | operand (o : LibraryOperand)
  | instruction (request : Request)
  | setMode
  | convert (request : Request)
  | overrideRexw (value : Nat)
  | overrideVectorLength (value : Nat)
  | encode (request : Request)
  | errorText
deriving DecidableEq

end AsmFixtures.Encoder

namespace AsmFixtures.Param

def operandSize? : Param → Option Nat
  | eosz8 => some 8
  | eosz16 => some 16
  | eosz32 => some 32
  | eosz64 => some 64
  | _ => none

def rexw? : Param → Option Nat
  | rexw0 => some 0
  | rexw1 => some 1
  | _ => none

def vectorLength? : Param → Option Nat
  | vexl128 => some 0
  | vexl256 => some 1
  | vexl512 => some 2
  | _ => none

end AsmFixtures.Param

namespace AsmFixtures.Encoder

/-- Without a parameter for it the operand size is 32 bits. -/
def operandSize (params : List Param) : Nat :=
  params.foldl (fun size p => p.operandSize?.getD size) 32

def overrideCall? (p : Param) : Option Call :=
  (p.rexw?.map .overrideRexw).or (p.vectorLength?.map .overrideVectorLength)

def Request.override (r : Request) (p : Param) : Request :=
  { r with rexw := p.rexw?.or r.rexw, vectorLength := p.vectorLength?.or r.vectorLength }

def Request.overrideAll (r : Request) (params : List Param) : Request :=
  params.foldl Request.override r

end AsmFixtures.Encoder
