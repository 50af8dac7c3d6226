import AsmFixtures.Database
import AsmFixtures.Proofs.Database.Delimited
import AsmFixtures.Proofs.Text.Blank
import Mathlib

/-! Reading undoes writing. A list of instructions may be written in many ways: its fields with
or without quotes, its lines with any ends, and blank lines and comments anywhere between the
rows. A comment may hold quotes and commas, since it is left out before rows are formed. Each
way gives the same records back, one for every row. -/

namespace AsmFixtures

namespace Record

def toRow (r : Record) : List String :=
  [r.intel, r.go, r.gnu, r.encoding, r.valid32, r.valid64, r.cpuid, r.tags, r.action,
    r.multisize, r.datasize]

theorem map_getD_range {row : List String} {n : Nat} (short : row.length ≤ n) :
    ((List.range n).map fun i => row[i]?.getD "") =
      row ++ List.replicate (n - row.length) "" := by
  apply List.ext_getElem?
  intro i
  by_cases inside : i < row.length
  · have within : i < n := by omega
    simp [List.getElem?_append, inside, within]
  · by_cases within : i < n
    · have rest : i - row.length < n - row.length := by omega
      simp [List.getElem?_append, inside, within, rest]
    · simp [List.getElem?_append, inside, within]
      omega

theorem exists_ofRow? {row : List String} (several : 2 ≤ row.length)
    (fits : row.length ≤ columns) (trimmed : ∀ field ∈ row, Text.trim field = field) :
    ∃ record, ofRow? row = .ok record ∧
      record.toRow = row ++ List.replicate (columns - row.length) "" := by
  have same : row.map Text.trim = row := (List.map_congr_left trimmed).trans row.map_id'
  unfold ofRow? ofColumns?
  rw [same, if_neg (Nat.not_lt.mpr fits)]
  match row, several, fits with
  | intel :: go :: rest, _, fits =>
    have short : rest.length ≤ 9 := by
      simp only [List.length_cons, columns] at fits
      omega
    have behind : [rest[0]?.getD "", rest[1]?.getD "", rest[2]?.getD "", rest[3]?.getD "",
        rest[4]?.getD "", rest[5]?.getD "", rest[6]?.getD "", rest[7]?.getD "",
        rest[8]?.getD ""] = rest ++ List.replicate (9 - rest.length) "" := map_getD_range short
    exact ⟨_, rfl, by simpa [toRow, columns] using behind⟩

end Record

theorem exists_recordsOfRows {rows : List (List String)} (several : ∀ row ∈ rows, 2 ≤ row.length)
    (fits : ∀ row ∈ rows, row.length ≤ Record.columns)
    (trimmed : ∀ row ∈ rows, ∀ field ∈ row, Text.trim field = field) :
    ∃ records, recordsOfRows none (rows.map (·.map String.toList)) = (records, none) ∧
      records.map Record.toRow =
        rows.map fun row => row ++ List.replicate (Record.columns - row.length) "" := by
  induction rows with
  | nil => exact ⟨[], rfl, rfl⟩
  | cons row rest ih =>
    obtain ⟨record, read, here⟩ := Record.exists_ofRow? (several row List.mem_cons_self)
      (fits row List.mem_cons_self) (trimmed row List.mem_cons_self)
    obtain ⟨records, others, later⟩ := ih (fun r mem => several r (List.mem_cons_of_mem _ mem))
      (fun r mem => fits r (List.mem_cons_of_mem _ mem))
      (fun r mem => trimmed r (List.mem_cons_of_mem _ mem))
    have fields : (row.map String.toList).map String.ofList = row := by
      simp [Function.comp_def]
    refine ⟨record :: records, ?_, by rw [List.map_cons, List.map_cons, here, later]⟩
    rw [List.map_cons, recordsOfRows, fields, read, others]

/-- A line of a list of instructions, without its end: a row, or what is written in between. -/
inductive SourceLine
  | row (fields : List Delimited.WrittenField)
  | remark (text : String)

namespace SourceLine

def chars : SourceLine → List Char
  | row fields => Delimited.rowChars fields
  | remark text => text.toList

def row? : SourceLine → Option (List String)
  | row fields => some (fields.map (·.text))
  | remark _ => none

structure RowLegible (fields : List Delimited.WrittenField) : Prop where
  several : 2 ≤ fields.length
  fits : fields.length ≤ 11
  legible : ∀ f ∈ fields, f.Legible
  trimmed : ∀ f ∈ fields, Text.trim f.text = f.text
  opening : ∀ f ∈ fields.head?, f.quoted = false → f.text.toList.head? ≠ some '#'

instance (fields : List Delimited.WrittenField) : Decidable (RowLegible fields) :=
  decidable_of_iff (2 ≤ fields.length ∧ fields.length ≤ 11 ∧ (∀ f ∈ fields, f.Legible) ∧
      (∀ f ∈ fields, Text.trim f.text = f.text) ∧
      ∀ f ∈ fields.head?, f.quoted = false → f.text.toList.head? ≠ some '#')
    ⟨fun ⟨several, fits, legible, trimmed, opening⟩ =>
        ⟨several, fits, legible, trimmed, opening⟩,
      fun ⟨several, fits, legible, trimmed, opening⟩ =>
        ⟨several, fits, legible, trimmed, opening⟩⟩

/-- A remark is blank, or its first character that is not blank is a number sign. -/
def Legible : SourceLine → Prop
  | row fields => RowLegible fields
  | remark text => Text.Chars.OneLine text.toList ∧
      (text.toList.find? (! Text.isBlank ·) = none ∨
        text.toList.find? (! Text.isBlank ·) = some '#')

instance : (line : SourceLine) → Decidable line.Legible
  | row fields => inferInstanceAs (Decidable (RowLegible fields))
  | remark _ => inferInstanceAs (Decidable (_ ∧ _))

theorem isRowLine_of_not_isBlank {c : Char} (text : Text.isBlank c = false) (sign : c ≠ '#')
    (rest : List Char) : isRowLine (c :: rest) = true := by
  have kept : Text.Chars.trimStart (c :: rest) = c :: rest :=
    List.dropWhile_cons_of_neg (by simp [text])
  rw [isRowLine, kept]
  simpa using sign

theorem isRowLine_rowChars {fields : List Delimited.WrittenField} (legible : RowLegible fields)
    (ending : List Char) : isRowLine (Delimited.rowChars fields ++ ending) = true := by
  match fields, legible.several with
  | f :: second :: others, _ =>
    have plain := legible.trimmed f List.mem_cons_self
    rw [Delimited.rowChars_cons_cons, Delimited.WrittenField.chars]
    cases quoted : f.quoted with
    | true => exact isRowLine_of_not_isBlank (by decide) (by decide) _
    | false =>
      cases text : f.text.toList with
      | nil => exact isRowLine_of_not_isBlank (by decide) (by decide) _
      | cons c rest =>
        have kept : Text.Chars.trim (c :: rest) = c :: rest := by
          rw [← text, ← Text.toList_trim, plain]
        have sign : c ≠ '#' := by
          have apart := legible.opening f rfl quoted
          simpa [text] using apart
        exact isRowLine_of_not_isBlank (Text.Chars.not_isBlank_of_trim_cons kept) sign _

theorem isRowLine_remark {text : String} (legible : (remark text).Legible) {ending : List Char}
    (lineEnds : ∀ c ∈ ending, Delimited.Scanner.isLineEnd c = true) :
    isRowLine (text.toList ++ ending) = false := by
  have blankEnds : ∀ c ∈ ending, Text.isBlank c = true := by
    intro c mem
    have ends := lineEnds c mem
    simp only [Delimited.Scanner.isLineEnd, Bool.or_eq_true, beq_iff_eq] at ends
    rcases ends with rfl | rfl <;> decide
  have nothing : Text.Chars.trimStart ending = [] :=
    (Text.Chars.trimStart_eq_nil_iff ending).mpr blankEnds
  have opening := legible.2
  rw [List.find?_eq_head?_dropWhile_not] at opening
  simp only [Bool.not_not] at opening
  rw [isRowLine, Text.Chars.trimStart, List.dropWhile_append]
  cases rest : text.toList.dropWhile Text.isBlank with
  | nil =>
    rw [Text.Chars.trimStart] at nothing
    simp [nothing]
  | cons c behind =>
    have sign : c = '#' := by simpa [rest] using opening
    simp [sign]

theorem oneLine_chars {line : SourceLine} (legible : line.Legible) :
    Text.Chars.OneLine line.chars := by
  cases line with
  | row fields =>
    have oneLine := Delimited.oneLine_rowChars (RowLegible.legible legible)
    constructor <;> intro mem <;> exact absurd (oneLine _ mem) (by decide)
  | remark text => exact legible.1

end SourceLine

section

variable {ε : Type} {ls : List (SourceLine × ε)} {ending : ε → List Char}

def writtenRows (ls : List (SourceLine × ε)) : List (List Delimited.WrittenField × ε) :=
  ls.filterMap fun l =>
    match l.1 with
    | .row fields => some (fields, l.2)
    | .remark _ => none

theorem mem_writtenRows {row : List Delimited.WrittenField × ε} (h : row ∈ writtenRows ls) :
    (.row row.1, row.2) ∈ ls := by
  obtain ⟨⟨line, mark⟩, mem, same⟩ := List.mem_filterMap.mp h
  cases line with
  | row fields =>
    obtain rfl := Option.some.inj same
    exact mem
  | remark text => cases same

theorem map_text_writtenRows :
    (writtenRows ls).map (fun row => row.1.map (·.text)) = ls.filterMap (·.1.row?) := by
  rw [writtenRows, List.map_filterMap]
  congr 1
  funext ⟨line, mark⟩
  cases line <;> rfl

theorem filter_isRowLine (legible : ∀ l ∈ ls, l.1.Legible)
    (lineEnds : ∀ e, ∀ c ∈ ending e, Delimited.Scanner.isLineEnd c = true) :
    (ls.map fun l => l.1.chars ++ ending l.2).filter isRowLine =
      (writtenRows ls).map fun row => Delimited.rowChars row.1 ++ ending row.2 := by
  induction ls with
  | nil => rfl
  | cons l ls ih =>
    have later := ih fun other mem => legible other (List.mem_cons_of_mem _ mem)
    have here := legible l List.mem_cons_self
    obtain ⟨line, mark⟩ := l
    cases line with
    | row fields =>
      have kept : isRowLine ((SourceLine.row fields).chars ++ ending mark) = true :=
        SourceLine.isRowLine_rowChars here _
      rw [List.map_cons, List.filter_cons_of_pos kept, later]
      rfl
    | remark text =>
      have skipped : isRowLine ((SourceLine.remark text).chars ++ ending mark) = false :=
        SourceLine.isRowLine_remark here (lineEnds mark)
      rw [List.map_cons, List.filter_cons_of_neg (Bool.eq_false_iff.mp skipped), later]
      rfl

theorem rows_filter_isRowLine (legible : ∀ l ∈ ls, l.1.Legible)
    (lineEnds : ∀ e, ∀ c ∈ ending e, Delimited.Scanner.isLineEnd c = true) :
    Delimited.rows ((ls.map fun l => l.1.chars ++ ending l.2).filter isRowLine) =
      ((ls.filterMap (·.1.row?)).map (·.map String.toList), none) := by
  have good : ∀ row ∈ writtenRows ls, SourceLine.RowLegible row.1 :=
    fun row mem => legible _ (mem_writtenRows mem)
  have several : ∀ row ∈ writtenRows ls, 2 ≤ row.1.length := fun row mem => (good row mem).several
  have fields : ∀ row ∈ writtenRows ls, ∀ f ∈ row.1, f.Legible :=
    fun row mem => (good row mem).legible
  rw [filter_isRowLine legible lineEnds, Delimited.rows_written several fields lineEnds,
    ← map_text_writtenRows, List.map_map]
  simp [Function.comp_def]

theorem ofLines?_eq_ok {lines : List String} {rows : List (List String)} {records : List Record}
    (read : Delimited.rows ((lines.map String.toList).filter isRowLine) =
      (rows.map (·.map String.toList), none))
    (made : recordsOfRows none (rows.map (·.map String.toList)) = (records, none)) :
    Database.ofLines? lines = .ok ⟨records⟩ := by
  rw [Database.ofLines?, readRecords, read]
  simp only [made]

theorem exists_records (legible : ∀ l ∈ ls, l.1.Legible) :
    ∃ records, recordsOfRows none ((ls.filterMap (·.1.row?)).map (·.map String.toList)) =
        (records, none) ∧
      records.map Record.toRow = (ls.filterMap (·.1.row?)).map fun row =>
        row ++ List.replicate (Record.columns - row.length) "" := by
  have good : ∀ row ∈ ls.filterMap (·.1.row?), 2 ≤ row.length ∧
      row.length ≤ Record.columns ∧ ∀ field ∈ row, Text.trim field = field := by
    intro row mem
    obtain ⟨⟨line, mark⟩, here, same⟩ := List.mem_filterMap.mp mem
    cases line with
    | row fields =>
      have row : SourceLine.RowLegible fields := legible _ here
      obtain rfl := Option.some.inj same
      simpa [Record.columns] using ⟨row.several, row.fits, row.trimmed⟩
    | remark text => cases same
  exact exists_recordsOfRows (fun row mem => (good row mem).1)
    (fun row mem => (good row mem).2.1) (fun row mem => (good row mem).2.2)

end

theorem isLineEnd_of_mem_chars (ending : Text.LineEnd) :
    ∀ c ∈ ending.chars, Delimited.Scanner.isLineEnd c = true := by
  cases ending <;> simp [Text.LineEnd.chars, Delimited.Scanner.isLineEnd]

theorem reading_undoes_writing (ls : List (SourceLine × Text.LineEnd))
    (legible : ∀ l ∈ ls, l.1.Legible) :
    let lines := ls.map fun l => String.ofList (l.1.chars ++ l.2.chars)
    let rows := ls.filterMap fun l => l.1.row?
    ∃ records : List Record,
      records.map Record.toRow =
        rows.map (fun row => row ++ List.replicate (11 - row.length) "") ∧
      Database.ofText? (Text.concat lines) = .ok ⟨records⟩ ∧
      Database.ofLines? lines = .ok ⟨records⟩ ∧
      Database.ofLines? (ls.map fun l => String.ofList l.1.chars) = .ok ⟨records⟩ := by
  intro lines rows
  obtain ⟨records, made, fields⟩ := exists_records legible
  refine ⟨records, fields, ?_, ?_, ?_⟩
  · have text : (Text.concat lines).toList =
        Text.Chars.written (ls.map fun l => (l.1.chars, l.2)) := by
      simp [Text.concat, Text.Chars.written, lines, List.flatMap_map]
    have oneLine : ∀ l ∈ ls.map fun l => (l.1.chars, l.2), Text.Chars.OneLine l.1 :=
      List.forall_mem_map.mpr fun l mem => SourceLine.oneLine_chars (legible l mem)
    have kept := Text.Chars.filter_lines_written (by decide : isRowLine ['\n'] = false) oneLine
    -- All lines of the text end in a line feed when they are read.
    have read := @rows_filter_isRowLine _ ls (fun _ => ['\n']) legible
      (fun _ => by simp [Delimited.Scanner.isLineEnd])
    apply ofLines?_eq_ok _ made
    rw [Text.lines, text]
    simpa [Function.comp_def, kept] using read
  · have read := rows_filter_isRowLine legible isLineEnd_of_mem_chars
    apply ofLines?_eq_ok _ made
    simpa [lines, Function.comp_def] using read
  · have read := @rows_filter_isRowLine _ ls (fun _ => []) legible (by simp)
    apply ofLines?_eq_ok _ made
    simpa [Function.comp_def] using read

/-- A comment with an open quote, an empty line that its line end swallows, a row that opens with
a number sign and holds quotes and a comma, blanks, and a row of empty text and a quoted letter. -/
theorem reading_undoes_writing_of_mixed_lines :
    let ls : List (SourceLine × Text.LineEnd) :=
      [(.remark " # an \"open, quote", .carriageReturn), (.remark "", .lineFeed),
        (.row [⟨"#1 \"x\", y", true⟩, ⟨"", false⟩, ⟨"a # b", false⟩], .both),
        (.remark "\t ", .carriageReturn), (.row [⟨"", false⟩, ⟨"V", true⟩], .carriageReturn)]
    (∀ l ∈ ls, l.1.Legible) ∧ ∃ records : List Record,
      records.map Record.toRow =
        [["#1 \"x\", y", "", "a # b"] ++ List.replicate 8 "",
          ["", "V"] ++ List.replicate 9 ""] ∧
      Database.ofText? (" # an \"open, quote\r\n" ++ "\"#1 \"\"x\"\", y\",,a # b\r\n" ++
        "\t \r" ++ ",\"V\"\r") = .ok ⟨records⟩ := by
  intro ls
  have legible : ∀ l ∈ ls, l.1.Legible := by decide +kernel
  obtain ⟨records, fields, read, _⟩ := reading_undoes_writing ls legible
  have text : Text.concat (ls.map fun l => String.ofList (l.1.chars ++ l.2.chars)) =
      " # an \"open, quote\r\n" ++ "\"#1 \"\"x\"\", y\",,a # b\r\n" ++ "\t \r" ++
        ",\"V\"\r" := by decide +kernel
  exact ⟨legible, records, fields, text ▸ read⟩

end AsmFixtures
