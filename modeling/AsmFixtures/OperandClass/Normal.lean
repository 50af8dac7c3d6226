import AsmFixtures.Text.Pieces

/-! Names of operand classes. The instruction list spells one class in several ways;
its normal name is the key of the argument domains. Rounding decorations do not
change the class. The width of a vector memory operand is not in its name and comes
from the opcode, where it is known. -/

namespace AsmFixtures.OperandClass

namespace Chars

/-- One pass from left to right: what the removal brings together is kept. -/
def dropRounding : List Char → List Char
  | '{' :: 's' :: 'a' :: 'e' :: '}' :: r => dropRounding r
  | '{' :: 'e' :: 'r' :: '}' :: r => dropRounding r
  | c :: r => c :: dropRounding r
  | [] => []

end Chars

def aliases : List (String × String) :=
  [("rmr32", "r32"), ("rmr64", "r64"),
   ("xmm1", "xmm"), ("xmm2", "xmm"), ("xmmV", "xmm"), ("xmmV+3", "xmm+3"), ("xmmIH", "xmm"),
   ("ymm1", "ymm"), ("ymm2", "ymm"), ("ymmV", "ymm"), ("ymmIH", "ymm"),
   ("zmm1", "zmm"), ("zmm2", "zmm"), ("zmmV", "zmm"), ("zmmV+3", "zmm+3"),
   ("k1", "k"), ("kV", "k"), ("k2", "k"),
   ("vm32x", "vmx"), ("vm64x", "vmx"), ("vm32y", "vmy"), ("vm64y", "vmy"),
   ("vm64z", "vmz"), ("vm32z", "vmz")]

def vectorMemory : List String := ["vmx", "vmy", "vmz"]

def elementWidths : List (String × Nat) :=
  [("VSCATTERQPD", 64), ("VGATHERDPD", 64), ("VGATHERQPD", 64), ("VPGATHERDQ", 64),
   ("VPGATHERQQ", 64), ("VPSCATTERDQ", 64), ("VPSCATTERQQ", 64), ("VSCATTERDPD", 64),
   ("VGATHERDPS", 32), ("VGATHERQPS", 32), ("VPGATHERDD", 32), ("VPGATHERQD", 32),
   ("VPSCATTERDD", 32), ("VPSCATTERQD", 32), ("VSCATTERDPS", 32), ("VSCATTERQPS", 32),
   ("VGATHERPF0DPD", 8), ("VGATHERPF0DPS", 8), ("VGATHERPF0QPD", 8), ("VGATHERPF0QPS", 8),
   ("VGATHERPF1DPD", 8), ("VGATHERPF1DPS", 8), ("VGATHERPF1QPD", 8), ("VGATHERPF1QPS", 8),
   ("VSCATTERPF0DPD", 8), ("VSCATTERPF0DPS", 8), ("VSCATTERPF0QPD", 8), ("VSCATTERPF0QPS", 8),
   ("VSCATTERPF1DPD", 8), ("VSCATTERPF1DPS", 8), ("VSCATTERPF1QPD", 8), ("VSCATTERPF1QPS", 8)]

def dropRounding (token : String) : String := String.ofList (Chars.dropRounding token.toList)

def resolve (opcode token : String) : String :=
  match aliases.lookup token with
  | none => token
  | some name =>
    if name ∈ vectorMemory then
      match elementWidths.lookup opcode with
      | some width => name ++ ":" ++ toString width
      | none => name
    else name

def normalize (opcode token : String) : String := resolve opcode (dropRounding token)

end AsmFixtures.OperandClass
