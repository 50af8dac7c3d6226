import AsmFixtures.Text.Pieces

/-! Sets of characters given by ranges of code points. A set is written as rows of
text: ranges in increasing order, separated by spaces, in hexadecimal, the last
point after a hyphen unless the range is a single point. -/

namespace AsmFixtures.Text

structure CharacterSet where
  ranges : List (Nat × Nat)

namespace CharacterSet

def hexDigit? (c : Char) : Option Nat :=
  if '0' ≤ c ∧ c ≤ '9' then some (c.toNat - '0'.toNat)
  else if 'a' ≤ c ∧ c ≤ 'f' then some (c.toNat - 'a'.toNat + 10)
  else if 'A' ≤ c ∧ c ≤ 'F' then some (c.toNat - 'A'.toNat + 10)
  else none

def hexValue (digits : List Char) : Nat :=
  digits.foldl (fun n c => 16 * n + (hexDigit? c).getD 0) 0

def rangeOfHex (item : List Char) : Nat × Nat :=
  match Chars.split '-' item with
  | [first, last] => (hexValue first, hexValue last)
  | _ => (hexValue item, hexValue item)

def ofHex (rows : List String) : CharacterSet :=
  ⟨rows.flatMap fun row => ((Chars.split ' ' row.toList).filter (· ≠ [])).map rangeOfHex⟩

def containsPoint (s : CharacterSet) (point : Nat) : Bool :=
  s.ranges.any fun (first, last) => first ≤ point && point ≤ last

def contains (s : CharacterSet) (c : Char) : Bool := s.containsPoint c.toNat

end CharacterSet

end AsmFixtures.Text
