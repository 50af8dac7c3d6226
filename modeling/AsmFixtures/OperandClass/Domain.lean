import AsmFixtures.OperandClass.GoSyntax

/-! The argument domains: for each operand class the arguments that cover it, each with
its Go syntax, and how many of them one instruction form takes. The choices are
hand made, and the generated fixtures depend on them directly. -/

namespace AsmFixtures.OperandClass

structure Entry where
  goSyntax : String
  argument : Argument

namespace Entry

def register (goName name : String) : Entry := ⟨goName, .reg name⟩

def vector (letter : String) (n : Int) : Entry :=
  register (letter ++ toString n) (letter ++ "MM" ++ toString n)

def mask (n : Int) : Entry := register ("K" ++ toString n) ("K" ++ toString n)

def byte (value : Int) : Entry := ⟨"$" ++ toString value, .imm value 8 true⟩

/-- Four registers in sequence, of which the encoder is told the first. -/
def block (goName name : String) (first : Nat) : Entry :=
  register ("[" ++ goName ++ toString first ++ "-" ++ goName ++ toString (first + 3) ++ "]")
    (name ++ toString first)

def memory? (width : Int) (m : MemoryArgument) : Except ConfigError Entry := do
  let sized := { m with width := width }
  return ⟨← GoSyntax.memory? sized, .mem sized⟩

end Entry

def blockStarts : List Nat := [0, 10, 20, 1, 11, 21, 2, 12, 22, 4, 14, 24]

def blockEntries (goName name : String) : List Entry :=
  blockStarts.map (Entry.block goName name)

def memoryEntries? (width : Int) (addresses : List MemoryArgument) :
    Except ConfigError (List Entry) :=
  addresses.mapM (Entry.memory? width)

def address (base : String) (index : Option String) (scale disp : Int) : MemoryArgument where
  base := some base
  index := index
  scale := scale
  disp := disp

/-- Both signs of the displacement, every scale, registers that need an extension bit,
and the stack and frame pointers, whose encodings are special. -/
def addresses : List MemoryArgument :=
  [address "RSP" none 0 17, address "RBP" (some "RSI") 4 (-17), address "RAX" none 0 7,
   address "RDI" none 0 0, address "R15" (some "R15") 0 99, address "RDX" none 0 0,
   address "RBP" (some "RSI") 8 (-17), address "R15" none 0 0,
   address "RSI" (some "RDI") 8 7, address "R14" none 0 (-15),
   address "RSI" (some "RDI") 0 7, address "RDX" (some "RBX") 8 15,
   address "RDI" (some "R8") 0 (-7), address "RSP" none 0 0, address "RCX" none 0 (-7),
   address "RDX" (some "RBX") 4 15, address "R15" (some "R15") 8 99,
   address "RAX" (some "RCX") 8 7, address "RAX" none 0 0, address "RSI" none 0 7,
   address "RBX" none 0 0, address "RBP" (some "RSI") 0 (-17),
   address "R8" (some "R14") 4 15, address "RCX" (some "RDX") 4 (-7), address "R8" none 0 0,
   address "RDX" (some "RBX") 2 15, address "RSP" (some "RBP") 0 17,
   address "RCX" (some "RDX") 8 (-7), address "RBP" (some "RSI") 2 (-17),
   address "RAX" (some "RCX") 2 7, address "R8" (some "R14") 0 15,
   address "R8" (some "R14") 2 15, address "R14" none 0 0, address "RDI" (some "R8") 8 (-7),
   address "R15" (some "R15") 4 99, address "RDX" none 0 15, address "RCX" none 0 0,
   address "R15" none 0 99, address "R15" (some "R15") 2 99, address "RDI" none 0 (-7),
   address "RCX" (some "RDX") 0 (-7), address "R14" (some "R15") 4 (-15),
   address "RDX" (some "RBX") 0 15, address "RCX" (some "RDX") 2 (-7),
   address "RBP" none 0 (-17), address "R14" (some "R15") 8 (-15),
   address "RSP" (some "RBP") 2 17, address "RDI" (some "R8") 4 (-7),
   address "R8" none 0 15, address "RBP" none 0 0, address "R8" (some "R14") 8 15,
   address "R14" (some "R15") 2 (-15), address "R14" (some "R15") 0 (-15),
   address "RBX" none 0 (-15), address "RAX" (some "RCX") 4 7,
   address "RAX" (some "RCX") 0 7, address "RSI" none 0 0, address "RSI" (some "RDI") 2 7,
   address "RSP" (some "RBP") 8 17, address "RSP" (some "RBP") 4 17,
   address "RSI" (some "RDI") 4 7, address "RDI" (some "R8") 2 (-7)]

def xmmAddresses : List MemoryArgument :=
  [address "RAX" (some "XMM4") 0 0, address "RBP" (some "XMM10") 2 0,
   address "R10" (some "XMM29") 8 0, address "RDX" (some "XMM10") 4 0,
   address "RSP" (some "XMM4") 2 0, address "R14" (some "XMM29") 8 0]

def ymmAddresses : List MemoryArgument :=
  [address "RAX" (some "YMM3") 0 0, address "RBP" (some "YMM9") 2 0,
   address "R10" (some "YMM28") 8 0, address "RDX" (some "YMM9") 4 0,
   address "RSP" (some "YMM3") 2 0, address "R14" (some "YMM28") 8 0]

def zmmAddresses : List MemoryArgument :=
  [address "RAX" (some "ZMM9") 0 0, address "RBP" (some "ZMM12") 2 0,
   address "R10" (some "ZMM31") 8 0, address "RDX" (some "ZMM12") 4 0,
   address "RSP" (some "ZMM9") 2 0, address "R14" (some "ZMM31") 8 0]

def xmmNumbers : List Int :=
  [22, 30, 3, 11, 15, 30, 13, 6, 12, 23, 30, 8, 20, 2, 9, 26, 19, 0, 31, 16, 7, 8, 1, 0, 15,
   0, 16, 21, 0, 28, 22, 7, 19, 7, 16, 31, 1, 7, 9, 15, 12, 0, 12, 14, 5, 17, 15, 8, 3, 26,
   23, 13, 28, 24, 9, 15, 26, 18, 21, 1, 11, 31, 3, 7, 0, 0, 24, 20, 7, 9, 7, 14, 5, 31, 3,
   21, 1, 11, 13, 0, 30, 16, 14, 11, 14, 19, 8, 8, 26, 23, 12, 16, 23, 23, 11, 31, 24, 14, 0,
   11, 23, 2, 20, 5, 25, 0, 9, 13, 2, 8, 9, 2, 31, 11, 22, 5, 14, 0, 17, 7, 15, 11, 0, 18, 8,
   27, 25, 3, 18, 15, 28, 15, 7, 13, 8, 24, 7, 0, 22, 1, 11, 6, 7, 8, 31, 3, 28, 20, 24, 7,
   20, 16, 12, 6, 17, 28, 6, 1, 8, 8, 6, 0, 11, 16, 6, 6, 22, 12, 16, 28, 8, 15, 11, 1, 19,
   13, 2, 14, 0, 0, 25, 11, 17, 18, 11, 9, 2, 24, 2, 2, 27, 26]

def ymmNumbers : List Int :=
  [14, 31, 25, 2, 22, 27, 8, 9, 22, 9, 14, 1, 6, 1, 9, 0, 19, 31, 22, 9, 23, 31, 5, 0, 5, 19,
   31, 28, 2, 24, 27, 0, 11, 31, 3, 14, 2, 13, 27, 15, 22, 20, 18, 24, 9, 3, 19, 23, 19, 14,
   21, 5, 16, 2, 21, 20, 6, 31, 6, 11, 19, 7, 6, 0, 3, 5, 20, 12, 3, 5, 28, 7, 0, 22, 13, 12,
   1, 14, 17, 7, 9, 31, 8, 1, 28, 13, 7, 2, 21, 12, 9, 1, 9, 3, 2, 9, 12, 21, 14, 30, 26, 7,
   16, 1, 30, 31, 22, 6, 21, 7, 0, 28, 20, 14, 24, 13, 20, 14, 21, 1, 26, 30, 12, 22, 3, 15,
   1, 27, 19, 5, 17, 13, 21, 7, 30, 13, 18, 24, 8, 11, 24, 5, 24, 21, 16, 9, 13, 9, 6, 3, 7,
   6, 26, 11, 26, 12, 14, 18, 31, 18, 3, 24, 2, 7, 21, 14, 8, 20, 11, 24, 1, 5, 18, 20, 20,
   9, 28, 28, 1, 8, 11, 27, 17, 16, 12, 6, 26, 3, 8, 28, 1, 23]

def zmmNumbers : List Int :=
  [0, 8, 15, 12, 14, 27, 11, 5, 13, 14, 5, 23, 2, 2, 6, 14, 26, 14, 28, 6, 13, 21, 26, 3, 3,
   0, 21, 13, 11, 25, 3, 12, 27, 15, 23, 5, 23, 6, 8, 28, 21, 5, 16, 13, 12, 27, 22, 11, 6,
   8, 25, 12, 12, 17, 9, 12, 6, 25, 3, 21, 8, 2, 3, 27, 7, 9, 0, 6, 20, 28, 3, 30, 9, 19, 12,
   22, 11, 5, 18, 24, 2, 21, 7, 13, 6, 16, 6, 22, 1, 15, 13, 13, 18, 8, 22, 7, 2, 31, 20, 9,
   1, 3, 12, 16, 28, 13, 14, 28, 3, 12, 15, 30, 19, 15, 5, 1, 3, 5, 14, 15, 21, 8, 16, 9, 20,
   0, 23, 19, 0, 11, 0, 25, 24, 12, 0, 26, 9, 3, 9, 25, 9, 28, 20, 0, 17, 0, 17, 23, 31, 0,
   21, 9, 6, 9, 1, 9, 20, 9, 30, 5, 26, 22, 7, 21, 16, 25, 14, 13, 12, 13, 21, 9, 2, 7, 27,
   25, 23, 9, 27, 14, 3, 0, 14, 7, 8, 24, 22, 25, 1, 16, 6, 2]

/-- Every address of the lists above has Go syntax, so none is dropped here. -/
def memoryDomain (width : Int) (addresses : List MemoryArgument) : List Entry :=
  (memoryEntries? width addresses).toOption.getD []

/-- Broadcast operands are known classes without arguments. A write mask is never K0. -/
def domains : List (String × List Entry) :=
  [("m32bcst", []),
   ("m64bcst", []),
   ("r32", [.register "AX" "EAX", .register "R9" "R9D", .register "CX" "ECX",
     .register "SP" "ESP", .register "R14" "R14D"]),
   ("r64", [.register "DX" "RDX", .register "BP" "RBP", .register "R10" "R10",
     .register "CX" "RCX", .register "R9" "R9", .register "R13" "R13"]),
   ("zmm+3", blockEntries "Z" "ZMM"),
   ("xmm+3", blockEntries "X" "XMM"),
   ("k", [7, 0, 1, 2, 3, 4, 5, 6].map .mask),
   ("\x7bk\x7d", [7, 1, 2, 3, 4, 5, 6].map .mask),
   ("imm8u:1", [1, 0].map .byte),
   ("imm8u:2", [3, 0, 1, 2].map .byte),
   ("imm8u:4", [15, 0, 1, 2, 3, 4, 5, 6, 7, 8, 9, 10, 11, 12, 13, 14].map .byte),
   ("imm8u", [255, 0, 97, 81, 42, 79, 64, 27, 47, 82, 126, 94, 121, 13, 65, 67].map .byte),
   ("m8", memoryDomain 8 addresses),
   ("m16", memoryDomain 16 addresses),
   ("m32", memoryDomain 32 addresses),
   ("m64", memoryDomain 64 addresses),
   ("m128", memoryDomain 128 addresses),
   ("m256", memoryDomain 256 addresses),
   ("m512", memoryDomain 512 addresses),
   ("vmx:32", memoryDomain 32 xmmAddresses),
   ("vmx:64", memoryDomain 64 xmmAddresses),
   ("vmy:8", memoryDomain 8 ymmAddresses),
   ("vmy:32", memoryDomain 32 ymmAddresses),
   ("vmy:64", memoryDomain 64 ymmAddresses),
   ("vmz:8", memoryDomain 8 zmmAddresses),
   ("vmz:32", memoryDomain 32 zmmAddresses),
   ("vmz:64", memoryDomain 64 zmmAddresses),
   ("xmm", xmmNumbers.map (.vector "X")),
   ("ymm", ymmNumbers.map (.vector "Y")),
   ("zmm", zmmNumbers.map (.vector "Z"))]

def peekCounts : List (String × Nat) :=
  [("m8", 2), ("m16", 2), ("m32", 2), ("m64", 2), ("m128", 2), ("m256", 2), ("m512", 2),
   ("xmm", 1), ("ymm", 1), ("zmm", 2), ("k", 2), ("\x7bk\x7d", 1),
   ("imm8u", 1), ("imm8u:1", 1), ("imm8u:2", 1), ("imm8u:4", 1), ("r32", 2), ("r64", 2),
   ("vmx:32", 3), ("vmx:64", 3), ("vmy:8", 3), ("vmy:32", 3), ("vmy:64", 3),
   ("vmz:8", 3), ("vmz:32", 3), ("vmz:64", 3), ("zmm+3", 3), ("xmm+3", 3),
   ("m32bcst", 0), ("m64bcst", 0)]

def domain (key : String) : List Entry := (domains.lookup key).getD []

/-- A class without a count of its own takes its whole domain. -/
def peeks (key : String) : Nat := (peekCounts.lookup key).getD (domain key).length

end AsmFixtures.OperandClass
