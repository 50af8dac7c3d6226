import AsmFixtures.Instruction

/-! The parameter sets under which a form is tested, read off its encoding text, for
example `EVEX.NDS.512.66.0F.W1 58 /r`. Each set gives other bytes for the same
operands, so each is a test of its own. -/

namespace AsmFixtures.Variant

def isEvex (encoding : String) : Bool := Text.startsWith encoding "EVEX"

/-- An ignored bit is tested with both of its values. -/
def rexw (encoding : String) : List Param :=
  if Text.contains encoding ".WIG" then [.rexw0, .rexw1]
  else if Text.contains encoding ".W1" then [.rexw1]
  else [.rexw0]

def vectorLength (encoding : String) : List Param :=
  if Text.contains encoding ".LIG" then
    if isEvex encoding then [.vexl128, .vexl256, .vexl512] else [.vexl128, .vexl256]
  else if Text.contains encoding ".512" then [.vexl512]
  else if Text.contains encoding ".256" then [.vexl256]
  else [.vexl128]

def operandSize (keys : List String) : List Param :=
  if "r64" ∈ keys then [.eosz64] else []

/-- The vector length varies faster than REX.W. -/
def all (encoding : String) (keys : List String) : List (List Param) :=
  (rexw encoding).flatMap fun w =>
    (vectorLength encoding).map fun vl => w :: vl :: operandSize keys

end AsmFixtures.Variant
