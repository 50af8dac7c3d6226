import AsmFixtures.Text.LetterCase
import AsmFixtures.Text.Pieces

/-! Sets of processor features, written with plus signs between them. The vector length
extension and the foundation of AVX-512 do not tell fixtures apart where another
feature stands in front of them. A set names the group of fixtures that needs it. -/

namespace AsmFixtures.Cpuid

/-- Each of the two is removed once, the vector length extension first. -/
def normalize (features : String) : String :=
  Text.removeFirst "+AVX512F" (Text.removeFirst "+AVX512VL" features)

def groupName (features : String) : String :=
  String.ofList ((Text.lower features).toList.map fun c =>
    if c = '+' || c = '-' || c = '.' then '_' else c)

end AsmFixtures.Cpuid
