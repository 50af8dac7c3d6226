import AsmFixtures.Text.Lines
import Mathlib.Data.List.Basic

/-! Lines of a written text. A line may end in any of the three ways, each line in its own:
reading gives every line back with one line feed at its end. The exception is an empty line
behind a carriage return, whose line feed belongs to the line above. It goes missing, so a
statement about all lines has to be one about those that are not empty. -/

namespace AsmFixtures.Text

inductive LineEnd
  | lineFeed
  | carriageReturn
  | both
deriving DecidableEq

def LineEnd.chars : LineEnd → List Char
  | lineFeed => ['\n']
  | carriageReturn => ['\r']
  | both => ['\r', '\n']

namespace Chars

def OneLine (s : List Char) : Prop := '\n' ∉ s ∧ '\r' ∉ s

instance (s : List Char) : Decidable (OneLine s) := inferInstanceAs (Decidable (_ ∧ _))

theorem unifyLineEnds_cons (c : Char) (s : List Char) :
    unifyLineEnds (c :: s) =
      if c = '\r' then
        if s.head? = some '\n' then unifyLineEnds s else '\n' :: unifyLineEnds s
      else c :: unifyLineEnds s := by
  cases s <;> rfl

theorem unifyLineEnds_append {s : List Char} (h : '\r' ∉ s) (rest : List Char) :
    unifyLineEnds (s ++ rest) = s ++ unifyLineEnds rest := by
  induction s with
  | nil => rfl
  | cons c s ih =>
    simp only [List.mem_cons, not_or] at h
    rw [List.cons_append, unifyLineEnds_cons, if_neg (Ne.symm h.1), ih h.2, List.cons_append]

theorem lines_append {s : List Char} (h : '\n' ∉ s) (rest : List Char) :
    lines (s ++ '\n' :: rest) = (s ++ ['\n']) :: lines rest := by
  induction s with
  | nil => rfl
  | cons c s ih =>
    simp only [List.mem_cons, not_or] at h
    change addToLines c (lines (s ++ '\n' :: rest)) = _
    rw [ih h.2, addToLines, if_neg (Ne.symm h.1)]
    rfl

def written (ls : List (List Char × LineEnd)) : List Char :=
  ls.flatMap fun (line, ending) => line ++ ending.chars

theorem written_cons (l : List Char × LineEnd) (ls : List (List Char × LineEnd)) :
    written (l :: ls) = l.1 ++ l.2.chars ++ written ls := List.flatMap_cons

theorem filter_lines_lineFeed {p : List Char → Bool} (empty : p ['\n'] = false) (s : List Char) :
    (lines ('\n' :: s)).filter p = (lines s).filter p := by
  have first : lines ('\n' :: s) = ['\n'] :: lines s := lines_append List.not_mem_nil s
  rw [first, List.filter_cons_of_neg (by simp [empty])]

/-- A line that is read first. Its end takes a line feed behind it along, if it can. -/
theorem filter_lines_append {p : List Char → Bool} (empty : p ['\n'] = false) {line : List Char}
    (one : OneLine line) (ending : LineEnd) (rest : List Char) :
    (lines (unifyLineEnds (line ++ ending.chars ++ rest))).filter p =
      ((line ++ ['\n']) :: lines (unifyLineEnds rest)).filter p := by
  have unified : ∃ behind, unifyLineEnds (ending.chars ++ rest) = '\n' :: behind ∧
      (lines behind).filter p = (lines (unifyLineEnds rest)).filter p := by
    cases ending with
    | lineFeed => exact ⟨_, by simp [LineEnd.chars, unifyLineEnds_cons], rfl⟩
    | both => exact ⟨_, by simp [LineEnd.chars, unifyLineEnds_cons], rfl⟩
    | carriageReturn =>
      cases rest with
      | nil => exact ⟨_, by simp [LineEnd.chars, unifyLineEnds_cons], rfl⟩
      | cons c behind =>
        by_cases feed : c = '\n'
        · subst feed
          have taken : unifyLineEnds ('\n' :: behind) = '\n' :: unifyLineEnds behind := by
            simp [unifyLineEnds_cons]
          refine ⟨unifyLineEnds behind, by simp [LineEnd.chars, unifyLineEnds_cons], ?_⟩
          rw [taken, filter_lines_lineFeed empty]
        · exact ⟨_, by simp [LineEnd.chars, unifyLineEnds_cons, feed], rfl⟩
  obtain ⟨behind, feed, same⟩ := unified
  rw [List.append_assoc, unifyLineEnds_append one.2, feed, lines_append one.1, List.filter_cons,
    List.filter_cons, same]

theorem filter_lines_written {p : List Char → Bool} (empty : p ['\n'] = false)
    {ls : List (List Char × LineEnd)} (one : ∀ l ∈ ls, OneLine l.1) :
    (lines (unifyLineEnds (written ls))).filter p = (ls.map fun l => l.1 ++ ['\n']).filter p := by
  induction ls with
  | nil => rfl
  | cons l ls ih =>
    have here := one l List.mem_cons_self
    have later := ih fun other mem => one other (List.mem_cons_of_mem _ mem)
    rw [written_cons, filter_lines_append empty here, List.filter_cons, later, List.map_cons,
      List.filter_cons]

end Chars

end AsmFixtures.Text
