import AsmFixtures.ConfigError

/-! How the Go assembler writes registers and memory. Register names drop the prefix
that tells their width; an address is the displacement if it is not zero, the base in
parentheses, and the index with its scale in parentheses. -/

namespace AsmFixtures.GoSyntax

def registerNames : List (String × String) :=
  [("EBP", "BP"), ("RBP", "BP"), ("ESI", "SI"), ("RSI", "SI"), ("EDI", "DI"), ("RDI", "DI"),
   ("EAX", "AX"), ("RAX", "AX"), ("R8D", "R8"), ("R8", "R8"), ("R9D", "R9"), ("R9", "R9"),
   ("R10D", "R10"), ("R10", "R10"), ("R14D", "R14"), ("R14", "R14"), ("R15D", "R15"),
   ("R15", "R15"), ("EDX", "DX"), ("RDX", "DX"), ("EBX", "BX"), ("RBX", "BX"), ("ECX", "CX"),
   ("RCX", "CX"), ("ESP", "SP"), ("RSP", "SP"), ("XMM4", "X4"), ("XMM10", "X10"),
   ("XMM29", "X29"), ("YMM3", "Y3"), ("YMM4", "Y4"), ("YMM5", "Y5"), ("YMM9", "Y9"),
   ("YMM11", "Y11"), ("YMM28", "Y28"), ("YMM30", "Y30"), ("ZMM4", "Z4"), ("ZMM9", "Z9"),
   ("ZMM12", "Z12"), ("ZMM31", "Z31")]

def register? (name : String) : Except ConfigError String :=
  match registerNames.lookup name with
  | some goName => .ok goName
  | none => .error (.noGoName name)

/-- The scale as it is written, where an absent factor counts as one. -/
def shownScale (m : MemoryArgument) : Int := if m.scale = 0 then 1 else m.scale

def shownDisp (disp : Int) : String := if disp = 0 then "" else toString disp

def memory? (m : MemoryArgument) : Except ConfigError String :=
  match m.base with
  | none => .error (.noBase m)
  | some base => do
    let baseName ← register? base
    match m.index with
    | none => return shownDisp m.disp ++ "(" ++ baseName ++ ")"
    | some index =>
      let indexName ← register? index
      return shownDisp m.disp ++ "(" ++ baseName ++ ")(" ++ indexName ++ "*" ++
        toString (shownScale m) ++ ")"

/-- An assembler line: the opcode, then the operands in the reverse of Intel order. -/
def line (opcode : String) (operands : List String) : String :=
  if operands.isEmpty then opcode else opcode ++ " " ++ Text.join ", " operands.reverse

end AsmFixtures.GoSyntax
