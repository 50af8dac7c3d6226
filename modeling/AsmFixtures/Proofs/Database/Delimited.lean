import AsmFixtures.Database.Delimited
import AsmFixtures.Proofs.Text.Lines
import AsmFixtures.Proofs.Text.Pieces

/-! Written rows and what the scanner makes of them. A field is written as it is or in quotes,
with each of its own quotes doubled. Whichever way was taken, the scanner stands behind the
field with its text in hand, and the next comma or the end of the line puts it away. A row of
at least two fields therefore comes back from its line, whatever the line ends in. -/

namespace AsmFixtures.Delimited

structure WrittenField where
  text : String
  quoted : Bool
deriving DecidableEq

namespace WrittenField

def doubled (text : List Char) : List Char :=
  text.flatMap fun c => if c = '"' then ['"', '"'] else [c]

def chars (f : WrittenField) : List Char :=
  if f.quoted then '"' :: (doubled f.text.toList ++ ['"']) else f.text.toList

/-- A field has no line end and at most the length that is read. Without quotes it has neither
a comma nor a quote. -/
structure Legible (f : WrittenField) : Prop where
  oneLine : Text.Chars.OneLine f.text.toList
  short : f.text.toList.length ≤ fieldLimit
  bare : f.quoted = false → ',' ∉ f.text.toList ∧ '"' ∉ f.text.toList

instance (f : WrittenField) : Decidable f.Legible :=
  decidable_of_iff (Text.Chars.OneLine f.text.toList ∧ f.text.toList.length ≤ fieldLimit ∧
      (f.quoted = false → ',' ∉ f.text.toList ∧ '"' ∉ f.text.toList))
    ⟨fun ⟨oneLine, short, bare⟩ => ⟨oneLine, short, bare⟩,
      fun ⟨oneLine, short, bare⟩ => ⟨oneLine, short, bare⟩⟩

end WrittenField

def rowChars (fields : List WrittenField) : List Char :=
  Text.Chars.join [','] (fields.map WrittenField.chars)

theorem rowChars_cons_cons (f second : WrittenField) (others : List WrittenField) :
    rowChars (f :: second :: others) = f.chars ++ ',' :: rowChars (second :: others) := by
  simp [rowChars, Text.Chars.join]

def Stage.EndsField : Stage → Prop
  | .fieldStart | .bare | .quoteInQuoted => True
  | .rowStart | .quoted | .lineEnd => False

namespace Scanner

theorem isLineEnd_of_oneLine {text : List Char} (h : Text.Chars.OneLine text) :
    ∀ c ∈ text, isLineEnd c = false := by
  intro c mem
  have feed : c ≠ '\n' := fun same => h.1 (same ▸ mem)
  have carriage : c ≠ '\r' := fun same => h.2 (same ▸ mem)
  simp [isLineEnd, feed, carriage]

theorem foldlM_cons_of_ok {s next : Scanner} {c : Char} (h : step s c = .ok next)
    (rest : List Char) : (c :: rest).foldlM step s = rest.foldlM step next := by
  rw [List.foldlM_cons, h]
  rfl

theorem foldlM_append_of_ok {s next : Scanner} {front : List Char}
    (h : front.foldlM step s = .ok next) (back : List Char) :
    (front ++ back).foldlM step s = back.foldlM step next := by
  rw [List.foldlM_append, h]
  rfl

theorem add_of_lt {size : Nat} (room : size < fieldLimit) (c : Char) (field : List Char)
    (fields : List (List Char)) (current next : Stage) :
    add ⟨current, field, size, fields⟩ c next = .ok ⟨next, c :: field, size + 1, fields⟩ :=
  if_neg (Nat.not_le.mpr room)

theorem foldlM_doubled {text : List Char} {size : Nat} (room : size + text.length ≤ fieldLimit)
    (field : List Char) (fields : List (List Char)) :
    (WrittenField.doubled text).foldlM step ⟨.quoted, field, size, fields⟩ =
      .ok ⟨.quoted, text.reverse ++ field, size + text.length, fields⟩ := by
  induction text generalizing size field with
  | nil => rfl
  | cons c rest ih =>
    rw [List.length_cons] at room
    have here : size < fieldLimit := by omega
    have later : size + 1 + rest.length ≤ fieldLimit := by omega
    have next : (if c = '"' then ['"', '"'] else [c]).foldlM step ⟨.quoted, field, size, fields⟩ =
        .ok ⟨.quoted, c :: field, size + 1, fields⟩ := by
      by_cases quote : c = '"'
      · simp only [quote, if_true]
        have added : step ⟨.quoteInQuoted, field, size, fields⟩ '"' =
            .ok ⟨.quoted, '"' :: field, size + 1, fields⟩ := add_of_lt here _ _ _ _ _
        rw [foldlM_cons_of_ok rfl, foldlM_cons_of_ok added]
        rfl
      · have added : step ⟨.quoted, field, size, fields⟩ c =
            .ok ⟨.quoted, c :: field, size + 1, fields⟩ := by
          simp [step, quote, add_of_lt here]
        rw [if_neg quote, foldlM_cons_of_ok added]
        rfl
    rw [WrittenField.doubled, List.flatMap_cons, foldlM_append_of_ok next]
    change (WrittenField.doubled rest).foldlM step _ = _
    rw [ih later]
    simp [Nat.add_assoc, Nat.add_comm 1]

theorem foldlM_bare {text : List Char} (oneLine : ∀ c ∈ text, isLineEnd c = false)
    (comma : ',' ∉ text) {size : Nat} (room : size + text.length ≤ fieldLimit)
    (field : List Char) (fields : List (List Char)) :
    text.foldlM step ⟨.bare, field, size, fields⟩ =
      .ok ⟨.bare, text.reverse ++ field, size + text.length, fields⟩ := by
  induction text generalizing size field with
  | nil => rfl
  | cons c rest ih =>
    rw [List.length_cons] at room
    rw [List.mem_cons, not_or] at comma
    have here : size < fieldLimit := by omega
    have later : size + 1 + rest.length ≤ fieldLimit := by omega
    have plain : ∀ d ∈ rest, isLineEnd d = false :=
      fun d mem => oneLine d (List.mem_cons_of_mem _ mem)
    have added : step ⟨.bare, field, size, fields⟩ c =
        .ok ⟨.bare, c :: field, size + 1, fields⟩ := by
      simp [step, oneLine c List.mem_cons_self, Ne.symm comma.1, add_of_lt here]
    rw [foldlM_cons_of_ok added, ih plain comma.2 later]
    simp [Nat.add_assoc, Nat.add_comm 1]

theorem foldlM_field {f : WrittenField} (legible : f.Legible) (fields : List (List Char)) :
    ∃ stage size, stage.EndsField ∧ f.chars.foldlM step ⟨.fieldStart, [], 0, fields⟩ =
      .ok ⟨stage, f.text.toList.reverse, size, fields⟩ := by
  have short := legible.short
  cases quoted : f.quoted with
  | true =>
    have inside := foldlM_doubled (by omega : 0 + f.text.toList.length ≤ fieldLimit) [] fields
    refine ⟨.quoteInQuoted, f.text.toList.length, trivial, ?_⟩
    rw [WrittenField.chars, quoted, if_pos rfl, foldlM_cons_of_ok rfl, foldlM_append_of_ok inside]
    simp only [List.append_nil, Nat.zero_add]
    rfl
  | false =>
    obtain ⟨comma, quote⟩ := legible.bare quoted
    have oneLine := isLineEnd_of_oneLine legible.oneLine
    rw [WrittenField.chars, quoted, if_neg Bool.false_ne_true]
    cases text : f.text.toList with
    | nil => exact ⟨.fieldStart, 0, trivial, rfl⟩
    | cons c rest =>
      rw [text] at comma quote oneLine short
      rw [List.mem_cons, not_or] at comma quote
      rw [List.length_cons] at short
      have plain : ∀ d ∈ rest, isLineEnd d = false :=
        fun d mem => oneLine d (List.mem_cons_of_mem _ mem)
      have opened : step ⟨.fieldStart, [], 0, fields⟩ c = .ok ⟨.bare, [c], 1, fields⟩ := by
        simp [step, openField, oneLine c List.mem_cons_self, Ne.symm comma.1, Ne.symm quote.1,
          add_of_lt (by decide : 0 < fieldLimit)]
      have rest_read := foldlM_bare plain comma.2 (by omega : 1 + rest.length ≤ fieldLimit) [c]
        fields
      refine ⟨.bare, 1 + rest.length, trivial, ?_⟩
      rw [foldlM_cons_of_ok opened, rest_read, List.reverse_cons]

theorem step_comma {stage : Stage} (ends : stage.EndsField) (field : List Char) (size : Nat)
    (fields : List (List Char)) :
    step ⟨stage, field, size, fields⟩ ',' = .ok ⟨.fieldStart, [], 0, field.reverse :: fields⟩ := by
  cases stage <;> first | rfl | cases ends

/-- A row is read up to the end of its line, with its last field in hand. -/
theorem foldlM_rowChars {row : List WrittenField} (nonempty : row ≠ [])
    (legible : ∀ f ∈ row, f.Legible) (fields : List (List Char)) :
    ∃ stage field size before, stage.EndsField ∧
      (rowChars row).foldlM step ⟨.fieldStart, [], 0, fields⟩ =
        .ok ⟨stage, field, size, before⟩ ∧
      field.reverse :: before = (row.map (·.text.toList)).reverse ++ fields := by
  induction row generalizing fields with
  | nil => exact absurd rfl nonempty
  | cons f rest ih =>
    obtain ⟨stage, size, ends, first⟩ := foldlM_field (legible f List.mem_cons_self) fields
    cases rest with
    | nil => exact ⟨stage, _, size, fields, ends, first, by simp⟩
    | cons second others =>
      obtain ⟨last, field, length, before, closes, read, same⟩ :=
        ih (List.cons_ne_nil _ _) (fun g mem => legible g (List.mem_cons_of_mem _ mem))
          (f.text.toList :: fields)
      refine ⟨last, field, length, before, closes, ?_, by simp [same]⟩
      rw [rowChars_cons_cons, foldlM_append_of_ok first, foldlM_cons_of_ok (step_comma ends _ _ _),
        List.reverse_reverse, read]

theorem foldlM_lineEnds {ending : List Char} (lineEnds : ∀ c ∈ ending, isLineEnd c = true)
    (fields : List (List Char)) :
    ending.foldlM step ⟨.lineEnd, [], 0, fields⟩ = .ok ⟨.lineEnd, [], 0, fields⟩ := by
  induction ending with
  | nil => rfl
  | cons c rest ih =>
    have stays : step ⟨.lineEnd, [], 0, fields⟩ c = .ok ⟨.lineEnd, [], 0, fields⟩ := by
      simp [step, lineEnds c List.mem_cons_self]
    rw [foldlM_cons_of_ok stays]
    exact ih fun d mem => lineEnds d (List.mem_cons_of_mem _ mem)

theorem endLine_of_endsField {stage : Stage} (ends : stage.EndsField) {ending : List Char}
    (lineEnds : ∀ c ∈ ending, isLineEnd c = true) (field : List Char) (size : Nat)
    (fields : List (List Char)) :
    (ending.foldlM step ⟨stage, field, size, fields⟩).map endLine =
      .ok ⟨.rowStart, [], 0, field.reverse :: fields⟩ := by
  cases ending with
  | nil => cases stage <;> first | rfl | cases ends
  | cons c rest =>
    have here := lineEnds c List.mem_cons_self
    have closed : step ⟨stage, field, size, fields⟩ c =
        .ok ⟨.lineEnd, [], 0, field.reverse :: fields⟩ := by
      have apart : c ≠ '"' ∧ c ≠ ',' := by
        constructor <;> rintro rfl <;> simp [isLineEnd] at here
      cases stage <;> simp [step, openField, save, here, apart] <;> cases ends
    rw [foldlM_cons_of_ok closed,
      foldlM_lineEnds fun d mem => lineEnds d (List.mem_cons_of_mem _ mem)]
    rfl

theorem step_rowStart {c : Char} (oneLine : isLineEnd c = false) (field : List Char) (size : Nat)
    (fields : List (List Char)) :
    step ⟨.rowStart, field, size, fields⟩ c = step ⟨.fieldStart, field, size, fields⟩ c := by
  simp [step, openField, oneLine, save, add]

end Scanner

theorem WrittenField.oneLine_chars {f : WrittenField} (legible : f.Legible) :
    ∀ c ∈ f.chars, Scanner.isLineEnd c = false := by
  have oneLine := Scanner.isLineEnd_of_oneLine legible.oneLine
  have inside : ∀ c ∈ doubled f.text.toList, Scanner.isLineEnd c = false := by
    intro c mem
    obtain ⟨d, here, mem⟩ := List.mem_flatMap.mp mem
    have same : c = d := by
      split at mem <;> simp_all
    rw [same]
    exact oneLine d here
  have quote : Scanner.isLineEnd '"' = false := by decide
  intro c mem
  unfold chars at mem
  split at mem
  · simp only [List.mem_cons, List.mem_append, List.not_mem_nil, or_false] at mem
    rcases mem with rfl | mem | rfl
    · exact quote
    · exact inside c mem
    · exact quote
  · exact oneLine c mem

theorem oneLine_rowChars {row : List WrittenField} (legible : ∀ f ∈ row, f.Legible) :
    ∀ c ∈ rowChars row, Scanner.isLineEnd c = false := by
  intro c mem
  rcases Text.Chars.mem_of_mem_join mem with comma | ⟨piece, written, mem⟩
  · obtain rfl := List.mem_singleton.mp comma
    decide
  · obtain ⟨f, here, rfl⟩ := List.mem_map.mp written
    exact WrittenField.oneLine_chars (legible f here) c mem

theorem rowChars_ne_nil {row : List WrittenField} (several : 2 ≤ row.length) :
    rowChars row ≠ [] := by
  match row, several with
  | f :: second :: others, _ => simp [rowChars_cons_cons]

theorem readLine_row {row : List WrittenField} (several : 2 ≤ row.length)
    (legible : ∀ f ∈ row, f.Legible) {ending : List Char}
    (lineEnds : ∀ c ∈ ending, Scanner.isLineEnd c = true) :
    Scanner.start.readLine (rowChars row ++ ending) =
      .ok ⟨.rowStart, [], 0, (row.map (·.text.toList)).reverse⟩ := by
  have nonempty : row ≠ [] := List.length_pos_iff.mp (by omega)
  obtain ⟨stage, field, size, before, ends, read, same⟩ :=
    Scanner.foldlM_rowChars nonempty legible []
  obtain ⟨c, rest, line⟩ := List.exists_cons_of_ne_nil (rowChars_ne_nil several)
  -- The first character is no line end, so it is read as at the start of any field.
  have opening : Scanner.isLineEnd c = false :=
    oneLine_rowChars legible c (line ▸ List.mem_cons_self)
  have started : (rowChars row).foldlM Scanner.step Scanner.start =
      (rowChars row).foldlM Scanner.step ⟨.fieldStart, [], 0, []⟩ := by
    rw [line, List.foldlM_cons, List.foldlM_cons, ← Scanner.step_rowStart opening]
    rfl
  rw [Scanner.readLine, Scanner.foldlM_append_of_ok (started.trans read),
    Scanner.endLine_of_endsField ends lineEnds, same, List.append_nil]

theorem rows_written {ε : Type} {ls : List (List WrittenField × ε)} {ending : ε → List Char}
    (several : ∀ l ∈ ls, 2 ≤ l.1.length) (legible : ∀ l ∈ ls, ∀ f ∈ l.1, f.Legible)
    (lineEnds : ∀ e, ∀ c ∈ ending e, Scanner.isLineEnd c = true) :
    rows (ls.map fun l => rowChars l.1 ++ ending l.2) =
      (ls.map fun l => l.1.map (·.text.toList), none) := by
  unfold rows
  induction ls with
  | nil => rfl
  | cons l ls ih =>
    have later := ih (fun other mem => several other (List.mem_cons_of_mem _ mem))
      (fun other mem => legible other (List.mem_cons_of_mem _ mem))
    have here := readLine_row (several l List.mem_cons_self) (legible l List.mem_cons_self)
      (lineEnds l.2)
    rw [List.map_cons, rowsFrom, here]
    simp [later, Scanner.row]

end AsmFixtures.Delimited
