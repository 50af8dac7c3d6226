/-! Rows of fields separated by commas. A field may stand in quotes; then commas and
line ends are part of it, and a quote inside it is written twice. Text behind the
closing quote still belongs to the field, and a quote inside a field that does not
open with one stands for itself. A row ends with its line unless a quote is open. -/

namespace AsmFixtures.Delimited

inductive Malformation
  | textBehindLineEnd
  | fieldTooLong
deriving DecidableEq

def fieldLimit : Nat := 131072

def Malformation.message : Malformation → String
  | textBehindLineEnd =>
    "new-line character seen in unquoted field - do you need to open the file in " ++
      "universal-newline mode?"
  | fieldTooLong => "field larger than field limit (" ++ toString fieldLimit ++ ")"

inductive Stage
  | rowStart
  | fieldStart
  | bare
  | quoted
  | quoteInQuoted
  | lineEnd
deriving DecidableEq

/-- A row being read. The current field and the fields in front of it are held in
reverse. -/
structure Scanner where
  stage : Stage := .rowStart
  field : List Char := []
  size : Nat := 0
  fields : List (List Char) := []

namespace Scanner

def start : Scanner := {}

def add (s : Scanner) (c : Char) (stage : Stage) : Except Malformation Scanner :=
  if fieldLimit ≤ s.size then .error .fieldTooLong
  else .ok { s with stage := stage, field := c :: s.field, size := s.size + 1 }

def save (s : Scanner) (stage : Stage) : Scanner :=
  ⟨stage, [], 0, s.field.reverse :: s.fields⟩

def isLineEnd (c : Char) : Bool := c == '\n' || c == '\r'

def openField (s : Scanner) (c : Char) : Except Malformation Scanner :=
  if isLineEnd c then .ok (s.save .lineEnd)
  else if c = '"' then .ok { s with stage := .quoted }
  else if c = ',' then .ok (s.save .fieldStart)
  else s.add c .bare

def step (s : Scanner) (c : Char) : Except Malformation Scanner :=
  match s.stage with
  | .rowStart => if isLineEnd c then .ok { s with stage := .lineEnd } else s.openField c
  | .fieldStart => s.openField c
  | .bare =>
    if isLineEnd c then .ok (s.save .lineEnd)
    else if c = ',' then .ok (s.save .fieldStart)
    else s.add c .bare
  | .quoted => if c = '"' then .ok { s with stage := .quoteInQuoted } else s.add c .quoted
  | .quoteInQuoted =>
    if c = '"' then s.add c .quoted
    else if c = ',' then .ok (s.save .fieldStart)
    else if isLineEnd c then .ok (s.save .lineEnd)
    else s.add c .bare
  | .lineEnd => if isLineEnd c then .ok s else .error .textBehindLineEnd

def endLine (s : Scanner) : Scanner :=
  match s.stage with
  | .rowStart | .quoted => s
  | .lineEnd => { s with stage := .rowStart }
  | .fieldStart | .bare | .quoteInQuoted => s.save .rowStart

def readLine (s : Scanner) (line : List Char) : Except Malformation Scanner :=
  (line.foldlM step s).map endLine

def row (s : Scanner) : List (List Char) := s.fields.reverse

end Scanner

/-- The rows of a sequence of lines, and what ended them early. A quote that is still
open at the end of the lines is closed there. -/
def rowsFrom (s : Scanner) : List (List Char) → List (List (List Char)) × Option Malformation
  | [] => (if s.stage = .quoted then [(s.save .rowStart).row] else [], none)
  | line :: rest =>
    match s.readLine line with
    | .error e => ([], some e)
    | .ok next =>
      if next.stage = .rowStart then
        let (rows, ending) := rowsFrom .start rest
        (next.row :: rows, ending)
      else rowsFrom next rest

def rows (lines : List (List Char)) : List (List (List Char)) × Option Malformation :=
  rowsFrom .start lines

end AsmFixtures.Delimited
