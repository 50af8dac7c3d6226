import AsmFixtures.EncodeError
import AsmFixtures.Instruction

/-! Operands: arguments whose values are known to fit the encoding. An immediate has
one of seven shapes and a value in the range of its shape; a memory operand has a
displacement of 32 signed bits, a scale that the address form knows, and a
displacement size. Registers are not looked up here. -/

namespace AsmFixtures

inductive Operand
  | reg (name : String)
  | imm (value : Int) (bits : Nat) (signed : Bool)
  | mem (base index : Option String) (scale : Nat) (disp : Int) (dispBits : Nat) (width : Int)
deriving DecidableEq

inductive ArgumentError
  | encode (error : EncodeError)
  | wrongType (typeName : String)

namespace ArgumentError

def message : ArgumentError → String
  | encode error => error.message
  | wrongType typeName => "invalid argument type: " ++ typeName

/-- An error of encoding is attributed to the position; a wrong type is not. -/
def attributed (index : Nat) : ArgumentError → ArgumentError
  | encode error => encode (error.attributed (some index))
  | wrongType typeName => wrongType typeName

end ArgumentError

def fits (value : Int) (bits : Nat) (signed : Bool) : Bool :=
  if signed then -(Int.pow 2 (bits - 1)) ≤ value && value < Int.pow 2 (bits - 1)
  else 0 ≤ value && value < Int.pow 2 bits

/-- A width below zero has no range, and neither has a signed range of no bits. A
negative value is outside every unsigned range, whatever the width. -/
def fits? (value bits : Int) (signed : Bool) : Option Bool :=
  if signed then
    if bits ≤ 0 then none else some (fits value bits.toNat signed)
  else if value < 0 then some false
  else if bits < 0 then none
  else some (fits value bits.toNat signed)

def immediateShapes : List (Int × Bool) :=
  [(8, true), (16, true), (32, true), (64, true), (8, false), (16, false), (32, false)]

def scales : List Int := [1, 2, 4, 8]

namespace MemoryArgument

def dispBits? (m : MemoryArgument) : Except EncodeError Nat :=
  match m.size with
  | .disp8 => .ok 8
  | .disp32 => .ok 32
  | .smallest => .ok (if m.disp = 0 then 0 else if fits m.disp 8 true then 8 else 32)
  | .unknown value => .error ⟨.displacementSize value, none⟩

def scale? (m : MemoryArgument) : Except EncodeError Nat :=
  if m.scale = 0 then .ok 1
  else if m.scale ∈ scales then .ok m.scale.toNat
  else .error ⟨.scale m.scale, none⟩

def operand? (m : MemoryArgument) : Except EncodeError Operand := do
  if ! fits m.disp 32 true then throw ⟨.displacementRange m.disp, none⟩
  let scale ← m.scale?
  let dispBits ← m.dispBits?
  return .mem m.base m.index scale m.disp dispBits m.width

end MemoryArgument

namespace Operand

def ofImmediate (value width : Int) (unsigned : Bool) : Except EncodeError Operand :=
  if (width, unsigned) ∉ immediateShapes then .error ⟨.immediateShape width unsigned, none⟩
  else if ! fits value width.toNat (! unsigned) then .error ⟨.immediateRange value width, none⟩
  else .ok (.imm value width.toNat (! unsigned))

def ofArgument : Argument → Except ArgumentError Operand
  | .reg name => .ok (.reg name)
  | .imm value width unsigned => (ofImmediate value width unsigned).mapError .encode
  | .mem address => address.operand?.mapError .encode
  | .other value => .error (.wrongType value.typeName)

def ofArgumentsFrom (index : Nat) : List Argument → Except ArgumentError (List Operand)
  | [] => .ok []
  | a :: rest => do
    let operand ← (ofArgument a).mapError (.attributed index)
    let operands ← ofArgumentsFrom (index + 1) rest
    return operand :: operands

def ofArguments (args : List Argument) : Except ArgumentError (List Operand) :=
  ofArgumentsFrom 0 args

end Operand

end AsmFixtures
