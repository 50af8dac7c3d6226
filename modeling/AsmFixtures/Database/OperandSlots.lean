import AsmFixtures.Text.Blank
import AsmFixtures.Text.Digit
import AsmFixtures.Text.Pieces

/-! Operand positions of an operand text such as `zmm2/m512/m64bcst{er}`. Slashes
separate alternatives, and braces hold decorations. A write mask is an operand of its
own that follows its owner. Zeroing is dropped, and any other decoration belongs to
every alternative. -/

namespace AsmFixtures.OperandText

structure Decorated where
  plain : List Char := []
  decorations : List (List Char) := []
deriving DecidableEq

namespace Decorated

def addPlain (c : Char) (d : Decorated) : Decorated := { d with plain := c :: d.plain }

def addDecoration (inside : List Char) (d : Decorated) : Decorated :=
  { d with decorations := inside :: d.decorations }

/-- `opened` is the text since an open brace, in reverse. A brace that is never closed
is plain text, and so is all behind it. -/
def scan (opened : Option (List Char)) : List Char → Decorated
  | [] => match opened with
    | none => {}
    | some inside => ⟨'\x7b' :: inside.reverse, []⟩
  | c :: r => match opened with
    | none => if c = '\x7b' then scan (some []) r else (scan none r).addPlain c
    | some inside =>
      if c = '\x7d' then (scan none r).addDecoration inside.reverse
      else scan (some (c :: inside)) r

def ofText (text : List Char) : Decorated := scan none text

def isMask : List Char → Bool
  | 'k' :: number => number.all Text.isDigit
  | _ => false

def isZeroing (decoration : List Char) : Bool := decoration == ['z']

def braced (decoration : List Char) : List Char := '\x7b' :: decoration ++ ['\x7d']

def suffix (d : Decorated) : List Char :=
  (d.decorations.filter fun e => ! isMask e && ! isZeroing e).flatMap braced

def masked (d : Decorated) : Bool := d.decorations.any isMask

def alternatives (d : Decorated) : List (List Char) :=
  (Text.Chars.split '/' (Text.Chars.trim d.plain)).map (Text.Chars.trim · ++ d.suffix)

end Decorated

def maskToken : String := "\x7bk\x7d"

def slots (operand : String) : List (List String) :=
  let d := Decorated.ofText operand.toList
  d.alternatives.map String.ofList :: if d.masked then [[maskToken]] else []

end AsmFixtures.OperandText
