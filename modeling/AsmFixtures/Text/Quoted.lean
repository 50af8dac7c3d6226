import AsmFixtures.Text.Printable

/-! Quoted texts. A text stands between single quotes, or between double quotes when
it holds a single quote and no double one. The quote and the backslash are escaped
by a backslash; a character that is not printable is shown by a short name or by
its code point in as few of two, four or eight hexadecimal digits as hold it. -/

namespace AsmFixtures.Text

def hexDigits (width value : Nat) : List Char :=
  let digits := Nat.toDigits 16 value
  List.replicate (width - digits.length) '0' ++ digits

namespace Chars

def quoteMark (s : List Char) : Char :=
  if s.contains '\'' && ! s.contains '"' then '"' else '\''

def escape (mark c : Char) : List Char :=
  if c = mark || c = '\\' then ['\\', c]
  else if c = '\n' then ['\\', 'n']
  else if c = '\r' then ['\\', 'r']
  else if c = '\t' then ['\\', 't']
  else if isPrintable c then [c]
  else if c.toNat < 0x100 then '\\' :: 'x' :: hexDigits 2 c.toNat
  else if c.toNat < 0x10000 then '\\' :: 'u' :: hexDigits 4 c.toNat
  else '\\' :: 'U' :: hexDigits 8 c.toNat

def quote (s : List Char) : List Char :=
  let mark := quoteMark s
  mark :: s.flatMap (escape mark) ++ [mark]

end Chars

def quote (s : String) : String := String.ofList (Chars.quote s.toList)

end AsmFixtures.Text
