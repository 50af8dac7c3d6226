/-! Reading a text file line by line. A line ends with a line feed, a carriage
return or the two together; each of the three is read as one line feed, which stays
at the end of its line. Only the last line may lack one. -/

namespace AsmFixtures.Text

namespace Chars

/-- A carriage return in front of a line feed is dropped, any other becomes one. -/
def unifyLineEnds (s : List Char) : List Char :=
  (s.foldr (fun c (next, done) =>
    (some c, if c = '\r' then (if next = some '\n' then done else '\n' :: done) else c :: done))
    ((none : Option Char), ([] : List Char))).2

def addToLines (c : Char) (lines : List (List Char)) : List (List Char) :=
  if c = '\n' then [c] :: lines
  else match lines with
    | [] => [[c]]
    | line :: rest => (c :: line) :: rest

def lines (s : List Char) : List (List Char) := s.foldr addToLines []

end Chars

def lines (s : String) : List String :=
  (Chars.lines (Chars.unifyLineEnds s.toList)).map String.ofList

end AsmFixtures.Text
