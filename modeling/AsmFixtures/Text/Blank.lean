/-! White space and the cuts made at it. A blank is a character that Unicode
calls white space, or one of the four separators of the ASCII control range.
Cuts are stated on lists of characters; the versions on strings only wrap them. -/

namespace AsmFixtures.Text

def isBlank (c : Char) : Bool :=
  let n := c.toNat
  (0x09 ≤ n && n ≤ 0x0d) || (0x1c ≤ n && n ≤ 0x20) || n == 0x85 || n == 0xa0 ||
    n == 0x1680 || (0x2000 ≤ n && n ≤ 0x200a) || n == 0x2028 || n == 0x2029 ||
    n == 0x202f || n == 0x205f || n == 0x3000

namespace Chars

def trimStart (s : List Char) : List Char := s.dropWhile isBlank

def trimEnd (s : List Char) : List Char := (trimStart s.reverse).reverse

def trim (s : List Char) : List Char := trimEnd (trimStart s)

/-- The first word and what follows the blanks behind it, which is `none` when
nothing does. A text of blanks has no first word. -/
def firstWord? (s : List Char) : Option (List Char × Option (List Char)) :=
  match trimStart s with
  | [] => none
  | c :: r =>
    let word := (c :: r).takeWhile (! isBlank ·)
    match trimStart ((c :: r).dropWhile (! isBlank ·)) with
    | [] => some (word, none)
    | rest => some (word, some rest)

end Chars

def trim (s : String) : String := String.ofList (Chars.trim s.toList)

def trimEnd (s : String) : String := String.ofList (Chars.trimEnd s.toList)

def firstWord? (s : String) : Option String :=
  (Chars.firstWord? s.toList).map fun (word, _) => String.ofList word

def afterFirstWord? (s : String) : Option String :=
  (Chars.firstWord? s.toList).bind fun (_, rest) => rest.map String.ofList

@[simp] theorem toList_trim (s : String) : (trim s).toList = Chars.trim s.toList := by
  simp [trim]

@[simp] theorem toList_trimEnd (s : String) : (trimEnd s).toList = Chars.trimEnd s.toList := by
  simp [trimEnd]

end AsmFixtures.Text
