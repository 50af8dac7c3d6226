import AsmFixtures.Database.OperandSlots
import AsmFixtures.Product
import AsmFixtures.Text.Quoted

/-! Records of the instruction list and the forms they stand for. A record describes
an instruction in three assembler languages and says where it is valid; its Intel
syntax lists the operands in the order an encoder wants them. A form chooses one
alternative at every operand position. -/

namespace AsmFixtures

structure Record where
  intel : String
  go : String
  gnu : String := ""
  encoding : String := ""
  valid32 : String := ""
  valid64 : String := ""
  cpuid : String := ""
  tags : String := ""
  action : String := ""
  multisize : String := ""
  datasize : String := ""
deriving DecidableEq

inductive RecordError
  | missingColumns
  | tooManyColumns (row : List String)
deriving DecidableEq

namespace RecordError

def message : RecordError → String
  | missingColumns => "the Intel and Go syntax columns are required"
  | tooManyColumns row =>
    "too many x86.csv columns: [" ++ Text.join ", " (row.map Text.quote) ++ "]"

end RecordError

namespace Record

def columns : Nat := 11

/-- Columns that are left out at the end are empty. -/
def ofColumns? (row : List String) : Except RecordError Record :=
  if columns < row.length then .error (.tooManyColumns row)
  else
    match row with
    | intel :: go :: rest =>
      let column (i : Nat) : String := rest[i]?.getD ""
      .ok ⟨intel, go, column 0, column 1, column 2, column 3, column 4, column 5, column 6,
        column 7, column 8⟩
    | _ => .error .missingColumns

def ofRow? (row : List String) : Except RecordError Record := ofColumns? (row.map Text.trim)

def intelOpcode? (r : Record) : Option String := Text.firstWord? r.intel

def goOpcode? (r : Record) : Option String := Text.firstWord? r.go

def intelArgs (r : Record) : List String :=
  match Text.afterFirstWord? r.intel with
  | none => []
  | some operands => (Text.split ',' operands).map Text.trim

def valid64Bit (r : Record) : Bool := r.valid64 == "V"

def slots (r : Record) : List (List String) := r.intelArgs.flatMap OperandText.slots

end Record

structure Form where
  record : Record
  args : List String
deriving DecidableEq

namespace Form

def text? (f : Form) : Option String :=
  f.record.intelOpcode?.map fun opcode => Text.trimEnd (opcode ++ " " ++ Text.join ", " f.args)

end Form

def Record.forms (r : Record) : List Form := (choices r.slots).map (Form.mk r)

end AsmFixtures
