import AsmFixtures.Files.Tree
import AsmFixtures.Proofs.Text.Pieces

/-! Paths of files in a directory. Behind the path of a directory, a name without slashes is
one more component, whether that path ends with a slash or not; it starts where the directory
does and is no shorter. -/

namespace AsmFixtures

namespace Path

/-- The components that lead to a directory. A slash at the end opens no component. -/
def components (directory : String) : List String :=
  if directory.isEmpty then []
  else if endsInSlash directory then (Text.split '/' directory).dropLast
  else Text.split '/' directory

theorem not_isAbsolute {name : String} (plain : '/' ∉ name.toList) : isAbsolute name = false := by
  unfold isAbsolute Text.startsWith
  cases h : name.toList with
  | nil => rfl
  | cons c rest =>
    have apart : c ≠ '/' := fun same => plain (h ▸ same ▸ List.mem_cons_self)
    simp [List.isPrefixOf, Ne.symm apart]

theorem split_join {directory name : String} (plain : '/' ∉ name.toList) :
    Text.split '/' (join directory name) = components directory ++ [name] := by
  have last : Text.split '/' name = [name] := by
    simp [Text.split, Text.Chars.split_of_not_mem plain]
  unfold join components
  rw [if_neg (by simp [not_isAbsolute plain])]
  by_cases empty : directory.isEmpty = true
  · simp [String.isEmpty_iff.mp empty, last]
  · by_cases slash : endsInSlash directory = true
    · obtain ⟨front, cut⟩ := List.getLast?_eq_some_iff.mp (by simpa [endsInSlash] using slash)
      have pieces := @Text.Chars.split_append '/' front
      simp [empty, slash, Text.split, cut, pieces, Text.Chars.split_of_not_mem plain]
    · simp [empty, slash, Text.split, Text.Chars.split_append,
        Text.Chars.split_of_not_mem plain]

theorem split_of_endsInSlash {path : String} (slash : endsInSlash path = true) :
    ∃ front, Text.split '/' path = front ++ [""] := by
  obtain ⟨front, cut⟩ := List.getLast?_eq_some_iff.mp (by simpa [endsInSlash] using slash)
  have pieces := @Text.Chars.split_append '/' front []
  exact ⟨_, by simp [Text.split, cut, pieces]; rfl⟩

theorem start_join {directory name : String} (plain : '/' ∉ name.toList) :
    Place.start (join directory name) = Place.start directory := by
  have opening : isAbsolute (join directory name) = isAbsolute directory := by
    unfold join
    rw [if_neg (by simp [not_isAbsolute plain])]
    by_cases empty : directory.isEmpty = true
    · rw [if_pos (by simp [empty]), String.isEmpty_iff.mp empty, String.empty_append]
      exact not_isAbsolute plain
    · have nonempty : directory.toList ≠ [] := by simpa using empty
      obtain ⟨c, rest, cut⟩ := List.exists_cons_of_ne_nil nonempty
      split <;> simp [isAbsolute, Text.startsWith, cut, List.isPrefixOf]
  rw [Place.start, Place.start, opening]

theorem toList_subset_join (directory : String) {name : String} (plain : '/' ∉ name.toList) :
    directory.toList ⊆ (join directory name).toList := by
  unfold join
  rw [if_neg (by simp [not_isAbsolute plain])]
  split <;> simp

theorem mem_of_mem_join {directory name : String} (plain : '/' ∉ name.toList) {c : Char}
    (mem : c ∈ (join directory name).toList) :
    c ∈ directory.toList ∨ c = '/' ∨ c ∈ name.toList := by
  unfold join at mem
  rw [if_neg (by simp [not_isAbsolute plain])] at mem
  split at mem
  · have either : c ∈ directory.toList ∨ c ∈ name.toList := by simpa using mem
    exact either.imp_right .inr
  · simpa using mem

theorem utf8ByteSize_le_join (directory : String) {name : String} (plain : '/' ∉ name.toList) :
    directory.utf8ByteSize ≤ (join directory name).utf8ByteSize := by
  unfold join
  rw [if_neg (by simp [not_isAbsolute plain])]
  split <;> simp only [String.utf8ByteSize_append] <;> omega

end Path

end AsmFixtures
