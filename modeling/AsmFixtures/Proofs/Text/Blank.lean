import AsmFixtures.Text.Blank
import Mathlib.Data.List.DropRight
import Mathlib.Data.List.TakeWhile

/-! Blank texts, trimmed texts and words. Blank texts are the texts without a first word. What is
trimmed neither begins nor ends with a blank, and a text of that kind loses nothing by trimming.
A word in front of a text is its first word. -/

namespace AsmFixtures.Text

namespace Chars

theorem trimStart_eq_nil_iff (s : List Char) :
    trimStart s = [] ↔ ∀ c ∈ s, isBlank c = true := List.dropWhile_eq_nil_iff

theorem firstWord?_eq_none_iff (s : List Char) :
    firstWord? s = none ↔ ∀ c ∈ s, isBlank c = true := by
  rw [← trimStart_eq_nil_iff, firstWord?]
  cases trimStart s with
  | nil => simp
  | cons c r =>
    simp only [reduceCtorEq, iff_false]
    split <;> simp

theorem length_trimStart_le (s : List Char) : (trimStart s).length ≤ s.length :=
  (List.dropWhile_sublist isBlank).length_le

theorem length_trimEnd_le (s : List Char) : (trimEnd s).length ≤ s.length := by
  have shorter := length_trimStart_le s.reverse
  simpa [trimEnd] using shorter

theorem trim_sublist (s : List Char) : (trim s).Sublist s := by
  have back : (trimEnd (trimStart s)).reverse.Sublist (trimStart s).reverse := by
    rw [trimEnd, List.reverse_reverse]
    exact List.dropWhile_sublist isBlank
  exact (List.reverse_sublist.mp back).trans (List.dropWhile_sublist isBlank)

theorem not_isBlank_of_trim_cons {c : Char} {s : List Char} (h : trim (c :: s) = c :: s) :
    isBlank c = false := by
  by_contra blank
  have dropped : trimStart (c :: s) = trimStart s :=
    List.dropWhile_cons_of_pos (Bool.of_not_eq_false blank)
  have shorter := Nat.le_trans (length_trimEnd_le (trimStart s)) (length_trimStart_le s)
  have length := congrArg List.length h
  rw [trim, dropped, List.length_cons] at length
  omega

structure Tight (s : List Char) : Prop where
  opening : ∀ c ∈ s.head?, isBlank c = false
  ending : ∀ c ∈ s.getLast?, isBlank c = false

structure IsWord (s : List Char) : Prop where
  some : s ≠ []
  plain : ∀ c ∈ s, isBlank c = false

theorem trimEnd_eq_rdropWhile (s : List Char) : trimEnd s = s.rdropWhile isBlank := rfl

theorem trimStart_of_opening {s : List Char} (opening : ∀ c ∈ s.head?, isBlank c = false) :
    trimStart s = s := by
  cases s with
  | nil => rfl
  | cons c rest => exact List.dropWhile_cons_of_neg (by simp [opening c rfl])

theorem trimEnd_of_ending {s : List Char} (ending : ∀ c ∈ s.getLast?, isBlank c = false) :
    trimEnd s = s := by
  have reversed : trimStart s.reverse = s.reverse :=
    trimStart_of_opening (by simpa [List.head?_reverse] using ending)
  rw [trimEnd, reversed, List.reverse_reverse]

theorem Tight.trim_eq {s : List Char} (h : Tight s) : trim s = s := by
  rw [trim, trimStart_of_opening h.opening, trimEnd_of_ending h.ending]

theorem opening_trimStart (s : List Char) : ∀ c ∈ (trimStart s).head?, isBlank c = false := by
  intro c first
  have kept := List.head?_dropWhile_not isBlank s
  rw [trimStart, Option.mem_def] at first
  simpa [first] using kept

theorem ending_trimEnd (s : List Char) : ∀ c ∈ (trimEnd s).getLast?, isBlank c = false := by
  simpa [trimEnd, List.getLast?_reverse] using opening_trimStart s.reverse

theorem trimEnd_prefix (s : List Char) : trimEnd s <+: s := by
  rw [trimEnd_eq_rdropWhile]
  exact List.rdropWhile_prefix isBlank s

theorem opening_trimEnd {s : List Char} (opening : ∀ c ∈ s.head?, isBlank c = false) :
    ∀ c ∈ (trimEnd s).head?, isBlank c = false := by
  obtain ⟨blanks, whole⟩ := trimEnd_prefix s
  intro c first
  refine opening c ?_
  rw [← whole, List.head?_append_of_ne_nil _ (by rintro empty; simp [empty] at first)]
  exact first

theorem tight_trim (s : List Char) : Tight (trim s) :=
  ⟨opening_trimEnd (opening_trimStart s), ending_trimEnd _⟩

theorem Tight.append {s t : List Char} (hs : Tight s) (ht : Tight t) : Tight (s ++ t) := by
  constructor
  · intro c first
    rw [List.head?_append, Option.mem_def, Option.or_eq_some_iff] at first
    exact first.elim (hs.opening c) fun second => ht.opening c second.2
  · intro c last
    rw [List.getLast?_append, Option.mem_def, Option.or_eq_some_iff] at last
    exact last.elim (ht.ending c) fun second => hs.ending c second.2

theorem trimEnd_append (s t : List Char) :
    trimEnd (s ++ t) = if trimEnd t = [] then trimEnd s else s ++ trimEnd t := by
  simp only [trimEnd, trimStart, List.reverse_append, List.dropWhile_append, List.isEmpty_iff,
    List.reverse_eq_nil_iff]
  split <;> simp

theorem trimEnd_eq_nil_iff (s : List Char) : trimEnd s = [] ↔ ∀ c ∈ s, isBlank c = true := by
  rw [trimEnd_eq_rdropWhile, List.rdropWhile_eq_nil_iff]

theorem trim_append_blanks (s : List Char) {blanks : List Char}
    (blank : ∀ c ∈ blanks, isBlank c = true) : trim (s ++ blanks) = trim s := by
  have dropped : trimEnd blanks = [] := (trimEnd_eq_nil_iff blanks).mpr blank
  have nothing : trimStart blanks = [] := (trimStart_eq_nil_iff blanks).mpr blank
  have front : trimStart (s ++ blanks) =
      if trimStart s = [] then [] else trimStart s ++ blanks := by
    rw [trimStart] at nothing
    simp [trimStart, List.dropWhile_append, nothing]
  rw [trim, front]
  split
  · rename_i empty
    rw [trim, empty]
  · rw [trimEnd_append, if_pos dropped, trim]

theorem trim_cons_of_isBlank {c : Char} (blank : isBlank c = true) (s : List Char) :
    trim (c :: s) = trim s := by
  rw [trim, trimStart, List.dropWhile_cons_of_pos blank, ← trimStart, ← trim]

theorem isWord_of_firstWord? {s word : List Char} {rest : Option (List Char)}
    (h : firstWord? s = some (word, rest)) : IsWord word := by
  have first := opening_trimStart s
  rw [firstWord?] at h
  cases start : trimStart s with
  | nil => simp [start] at h
  | cons c r =>
    have apart : isBlank c = false := first c (by simp [start])
    have same : word = (c :: r).takeWhile (! isBlank ·) := by
      rw [start] at h
      dsimp only at h
      split at h <;> exact (Prod.mk.inj (Option.some.inj h)).1.symm
    refine ⟨?_, fun d mem => ?_⟩
    · simp [same, apart]
    · rw [same] at mem
      simpa using List.mem_takeWhile_imp mem

namespace IsWord

variable {word : List Char} (h : IsWord word)
include h

theorem opening : ∀ c ∈ word.head?, isBlank c = false :=
  fun c first => h.plain c (List.mem_of_mem_head? first)

theorem ending : ∀ c ∈ word.getLast?, isBlank c = false :=
  fun c last => h.plain c (List.mem_of_mem_getLast? last)

theorem tight : Tight word := ⟨h.opening, h.ending⟩

/-- A word in front is the first word, and one blank keeps what follows apart from it. -/
theorem firstWord?_append {rest : List Char} (some : rest ≠ [])
    (opening : ∀ c ∈ rest.head?, isBlank c = false) :
    firstWord? (word ++ ' ' :: rest) = .some (word, .some rest) := by
  obtain ⟨c, r, rfl⟩ := List.exists_cons_of_ne_nil h.some
  obtain ⟨d, behind, rfl⟩ := List.exists_cons_of_ne_nil some
  have kept : trimStart (c :: r ++ ' ' :: d :: behind) = c :: (r ++ ' ' :: d :: behind) :=
    trimStart_of_opening h.opening
  have all : ∀ e ∈ c :: r, (! isBlank e) = true := by simpa using h.plain
  have front : (c :: (r ++ ' ' :: d :: behind)).takeWhile (! isBlank ·) = c :: r := by
    rw [← List.cons_append, List.takeWhile_append_of_pos all]
    simp [show isBlank ' ' = true from rfl]
  have back : trimStart ((c :: (r ++ ' ' :: d :: behind)).dropWhile (! isBlank ·)) =
      d :: behind := by
    have blank : isBlank ' ' = true := rfl
    rw [← List.cons_append, List.dropWhile_append_of_pos all,
      List.dropWhile_cons_of_neg (by simp [blank]), trimStart, List.dropWhile_cons_of_pos blank,
      ← trimStart, trimStart_of_opening opening]
  simp only [firstWord?, kept, front, back]

theorem firstWord?_self : firstWord? word = .some (word, none) := by
  obtain ⟨c, r, rfl⟩ := List.exists_cons_of_ne_nil h.some
  have kept : trimStart (c :: r) = c :: r := trimStart_of_opening h.opening
  have all : ∀ e ∈ c :: r, (! isBlank e) = true := by simpa using h.plain
  have front : (c :: r).takeWhile (! isBlank ·) = c :: r := List.takeWhile_eq_self_iff.mpr all
  have back : trimStart ((c :: r).dropWhile (! isBlank ·)) = [] := by
    rw [List.dropWhile_eq_nil_iff.mpr all]
    rfl
  simp only [firstWord?, kept, front, back]

end IsWord

end Chars

def AllBlank (s : String) : Prop := ∀ c ∈ s.toList, isBlank c = true

instance (s : String) : Decidable (AllBlank s) :=
  decidable_of_iff (s.toList.all isBlank = true) List.all_eq_true

theorem firstWord?_eq_none_iff (s : String) : firstWord? s = none ↔ AllBlank s := by
  simp [firstWord?, Chars.firstWord?_eq_none_iff, AllBlank]

theorem isWord_of_firstWord? {s word : String} (h : firstWord? s = some word) :
    Chars.IsWord word.toList := by
  obtain ⟨⟨front, rest⟩, found, rfl⟩ := Option.map_eq_some_iff.mp h
  simpa using Chars.isWord_of_firstWord? found

theorem afterFirstWord?_of_allBlank {s : String} (h : AllBlank s) : afterFirstWord? s = none := by
  simp [afterFirstWord?, (Chars.firstWord?_eq_none_iff _).mpr h]

end AsmFixtures.Text
