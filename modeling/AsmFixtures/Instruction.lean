import AsmFixtures.Datum

/-! An instruction as it is handed to an encoder: an opcode, parameters that fix bits
the operands leave open, and arguments in the order of Intel syntax. -/

namespace AsmFixtures

/-- The REX.W bit, the vector length and the effective operand size; an instruction
names at most one parameter of each of these families. -/
inductive Param
  | rexw0 | rexw1
  | vexl128 | vexl256 | vexl512
  | eosz8 | eosz16 | eosz32 | eosz64
deriving DecidableEq, Inhabited

namespace Param

def all : List Param :=
  [rexw0, rexw1, vexl128, vexl256, vexl512, eosz8, eosz16, eosz32, eosz64]

def name : Param → String
  | rexw0 => "REXW0"
  | rexw1 => "REXW1"
  | vexl128 => "VEXL128"
  | vexl256 => "VEXL256"
  | vexl512 => "VEXL512"
  | eosz8 => "EOSZ8"
  | eosz16 => "EOSZ16"
  | eosz32 => "EOSZ32"
  | eosz64 => "EOSZ64"

def ofName? (text : String) : Option Param := all.find? (·.name == text)

def sortedNames (params : List Param) : List String :=
  (params.map name).mergeSort (fun a b => decide (a ≤ b))

def listing (params : List Param) : String := Text.join "," (sortedNames params)

end Param

inductive DisplacementSize
  | smallest
  | disp8
  | disp32
  | unknown (value : Datum)

/-- The memory at `base + index * scale + disp`, with `width` bits. A scale of zero
stands for one, and an absent register does not contribute. -/
structure MemoryArgument where
  base : Option String := none
  index : Option String := none
  scale : Int := 0
  disp : Int := 0
  size : DisplacementSize := .smallest
  width : Int := 0

inductive Argument
  | reg (name : String)
  | imm (value : Int) (width : Int) (unsigned : Bool)
  | mem (address : MemoryArgument)
  | other (value : Datum)

structure Instruction where
  opcode : String
  params : List Param := []
  args : List Argument := []

namespace DisplacementSize

def literal : DisplacementSize → String
  | smallest => "<DisplacementKind.SMALLEST: 1>"
  | disp8 => "<DisplacementKind.DISP8: 2>"
  | disp32 => "<DisplacementKind.DISP32: 3>"
  | unknown value => value.literal

def same : DisplacementSize → DisplacementSize → Bool
  | smallest, smallest | disp8, disp8 | disp32, disp32 => true
  | unknown a, unknown b => a.same b
  | _, _ => false

end DisplacementSize

namespace MemoryArgument

def registerLiteral : Option String → String
  | none => "None"
  | some name => Text.quote name

def literal (m : MemoryArgument) : String :=
  "MemArgument(base=" ++ registerLiteral m.base ++ ", index=" ++ registerLiteral m.index ++
    ", scale=" ++ toString m.scale ++ ", disp=" ++ toString m.disp ++
    ", disp_width=" ++ m.size.literal ++ ", width=" ++ toString m.width ++ ")"

def same (a b : MemoryArgument) : Bool :=
  a.base == b.base && a.index == b.index && a.scale == b.scale && a.disp == b.disp &&
    a.size.same b.size && a.width == b.width

end MemoryArgument

namespace Argument

def literal : Argument → String
  | reg name => "RegArgument(name=" ++ Text.quote name ++ ")"
  | imm value width unsigned =>
    "ImmArgument(value=" ++ toString value ++ ", width=" ++ toString width ++ ", unsigned=" ++
      (Datum.truth unsigned).literal ++ ")"
  | mem address => address.literal
  | other value => value.literal

def same : Argument → Argument → Bool
  | reg a, reg b => a == b
  | imm v w u, imm v' w' u' => v == v' && w == w' && u == u'
  | mem a, mem b => a.same b
  | other a, other b => a.same b
  | _, _ => false

def allSame : List Argument → List Argument → Bool
  | [], [] => true
  | a :: as, b :: bs => a.same b && allSame as bs
  | _, _ => false

end Argument

namespace Instruction

def of (opcode : String) (params : List Param) (args : List Argument) : Instruction :=
  ⟨opcode, params.eraseDups, args⟩

/-- Equality of instructions does not see the order of the parameters. -/
def same (a b : Instruction) : Bool :=
  a.opcode == b.opcode && Param.all.all (fun p => a.params.contains p == b.params.contains p) &&
    Argument.allSame a.args b.args

end Instruction

end AsmFixtures
