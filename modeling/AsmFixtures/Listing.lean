import AsmFixtures.Batch
import AsmFixtures.Files.Tree

/-! What is written: one assembler file for each group of fixtures, and a report on what
was left out. A file lists the fixtures of its group in the order they were made, each
with its machine code behind it; the report gives skipped forms first. -/

namespace AsmFixtures

namespace Listing

structure Line where
  cpuid : String
  asm : String
  hex : String
deriving DecidableEq

def Line.group (l : Line) : String := Cpuid.groupName l.cpuid

def header (name : String) : String :=
  "// Code generated by x86asmtest. DO NOT EDIT.\n\n" ++
    "#include \"../../../../../../runtime/textflag.h\"\n\n" ++
    "TEXT asmtest_" ++ name ++ "(SB), NOSPLIT, $0\n"

def footer : String := "\tRET\n"

def commentColumn : Nat := 50

def Line.text (l : Line) : String :=
  "\t" ++ Text.padEnd commentColumn l.asm ++ " // " ++ l.hex ++ "\n"

def fileText (name : String) (lines : List Line) : String :=
  header name ++ Text.concat (lines.map Line.text) ++ footer

def groupNames (lines : List Line) : List String :=
  ((lines.map Line.group).eraseDups).mergeSort fun a b => decide (a ≤ b)

def ofGroup (name : String) (lines : List Line) : List Line :=
  lines.filter (·.group = name)

def groups (lines : List Line) : List (String × List Line) :=
  (groupNames lines).map fun name => (name, ofGroup name lines)

end Listing

namespace Report

structure SkipLine where
  form : String
  reason : String

structure FailureLine where
  form : String
  params : List Param
  asm : String
  error : String

def SkipLine.text (l : SkipLine) : String := l.form ++ ": " ++ l.reason ++ "\n"

def FailureLine.text (l : FailureLine) : String :=
  l.form ++ " [" ++ Param.listing l.params ++ "] " ++ l.asm ++ ": " ++ l.error ++ "\n"

def text (skips : List SkipLine) (failures : List FailureLine) : String :=
  "# skipped forms: " ++ toString skips.length ++ "\n" ++
    Text.concat (skips.map SkipLine.text) ++
    "# failed combinations: " ++ toString failures.length ++ "\n" ++
    Text.concat (failures.map FailureLine.text)

end Report

def Fixture.line (f : Fixture) : Listing.Line := ⟨f.cpuid, f.asm, f.hex⟩

/-- A form that was skipped or failed has a text. -/
def SkippedForm.line (s : SkippedForm) : Report.SkipLine := ⟨s.form.text?.getD "", s.reason⟩

def FailedCombination.line (f : FailedCombination) : Report.FailureLine :=
  ⟨f.form.text?.getD "", f.params, f.asm, f.error.message⟩

namespace Batch

def lines {φ : Type} (b : Batch φ) : List Listing.Line := b.fixtures.map Fixture.line

def report {φ : Type} (b : Batch φ) : String :=
  Report.text (b.skips.map SkippedForm.line) (b.failures.map FailedCombination.line)

end Batch

namespace Listing

def filePath (directory name : String) : String := Path.join directory (name ++ ".s")

def writeGroups (directory : String) : List (String × List Line) → FileWork (List String)
  | [] => return []
  | (name, lines) :: rest => do
    let path := filePath directory name
    FileWork.write path (fileText name lines)
    let paths ← writeGroups directory rest
    return path :: paths

def write (directory : String) (lines : List Line) : FileWork (List String) := do
  FileWork.ensureDirectory directory
  writeGroups directory (groups lines)

end Listing

end AsmFixtures
