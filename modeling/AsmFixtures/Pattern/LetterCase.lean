import AsmFixtures.Text.LetterCase

/-! Which characters count as the same when letter case is ignored. Characters with one
small letter are the same, and so are the small letters of one capital. The capital I with
a dot is an i here, although its small letter has a combining dot too. Where only ASCII
counts, the 26 letters are folded and nothing else. -/

namespace AsmFixtures.Pattern

def sharedCapitals : List (List Nat) :=
  [[0x69, 0x131], [0x73, 0x17f], [0xb5, 0x3bc], [0x345, 0x3b9, 0x1fbe], [0x390, 0x1fd3],
   [0x3b0, 0x1fe3], [0x3b2, 0x3d0], [0x3b5, 0x3f5], [0x3b8, 0x3d1], [0x3ba, 0x3f0],
   [0x3c0, 0x3d6], [0x3c1, 0x3f1], [0x3c2, 0x3c3], [0x3c6, 0x3d5], [0x432, 0x1c80],
   [0x434, 0x1c81], [0x43e, 0x1c82], [0x441, 0x1c83], [0x442, 0x1c84, 0x1c85],
   [0x44a, 0x1c86], [0x463, 0x1c87], [0x1e61, 0x1e9b], [0xa64b, 0x1c88], [0xfb05, 0xfb06]]

def asciiLower (c : Nat) : Nat := if 0x41 ≤ c ∧ c ≤ 0x5a then c + 32 else c

def dottedCapitalI : Nat := 0x130

def foldPoint (ascii : Bool) (c : Nat) : Nat :=
  if ascii then asciiLower c
  else if c = dottedCapitalI then 'i'.toNat
  else Text.lowerPoint c

def capitals (small : Nat) : List Nat :=
  if small = 'i'.toNat then dottedCapitalI :: Text.capitalsOf small else Text.capitalsOf small

def sameLetters (ascii : Bool) (c : Nat) : List Nat :=
  let small := foldPoint ascii c
  if ascii then
    if 0x61 ≤ small ∧ small ≤ 0x7a then [small, small - 32] else [small]
  else
    let smalls := (sharedCapitals.find? (·.contains small)).getD [small]
    smalls ++ smalls.flatMap capitals

end AsmFixtures.Pattern
