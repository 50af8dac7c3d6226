import AsmFixtures.Database.Delimited
import AsmFixtures.Database.Record
import AsmFixtures.Pattern.Search
import AsmFixtures.Text.Lines

/-! The instruction list as a database of records. Blank lines and comment lines are left
out before rows are read, so a comment may even stand inside a quoted field. Only the
forms that are valid in 64-bit mode are covered by fixtures. -/

namespace AsmFixtures

inductive ReadError
  | row (cause : Delimited.Malformation)
  | record (cause : RecordError)
deriving DecidableEq

def ReadError.message : ReadError → String
  | row cause => cause.message
  | record cause => cause.message

def isRowLine (line : List Char) : Bool :=
  match Text.Chars.trimStart line with
  | [] => false
  | c :: _ => c != '#'

/-- Records of rows, up to the first row that is none. `ending` tells why the rows ended. -/
def recordsOfRows (ending : Option Delimited.Malformation) :
    List (List (List Char)) → List Record × Option ReadError
  | [] => ([], ending.map .row)
  | row :: rest =>
    match Record.ofRow? (row.map String.ofList) with
    | .error e => ([], some (.record e))
    | .ok record =>
      let (records, last) := recordsOfRows ending rest
      (record :: records, last)

def readRecords (lines : List String) : List Record × Option ReadError :=
  let (rows, ending) := Delimited.rows ((lines.map String.toList).filter isRowLine)
  recordsOfRows ending rows

structure Database where
  records : List Record

namespace Database

def ofLines? (lines : List String) : Except ReadError Database :=
  match readRecords lines with
  | (records, none) => .ok ⟨records⟩
  | (_, some e) => .error e

def ofText? (text : String) : Except ReadError Database := ofLines? (Text.lines text)

def size (d : Database) : Nat := d.records.length

def covers (filter : Option Pattern) (r : Record) : Bool :=
  r.valid64Bit && filter.all (·.occursIn r.cpuid)

def forms (d : Database) (filter : Option Pattern) : List Form :=
  (d.records.filter (covers filter)).flatMap Record.forms

def forms? (d : Database) (names : Pattern.CharacterNames) (filter : Option String) :
    Except Pattern.Defect (List Form) := do
  match filter with
  | none => return d.forms none
  | some text => return d.forms (some (← Pattern.parse? names text))

end Database

end AsmFixtures
