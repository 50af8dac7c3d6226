import AsmFixtures.Listing
import AsmFixtures.Proofs.Files.Tree
import Mathlib.Algebra.BigOperators.Group.List.Lemmas
import Mathlib.Algebra.Ring.Nat

/-! The files of a listing. Every line stands in the file of its group and in no other, so the
files together hold as many lines as there are. The files of groups whose names have no slash
all lie in the directory that they are written to, each at a place of its own. -/

namespace AsmFixtures

namespace Listing

theorem nodup_groupNames (lines : List Line) : (groupNames lines).Nodup :=
  (List.mergeSort_perm _ _).nodup_iff.mpr (nodup_eraseDups _)

theorem mem_groupNames {lines : List Line} {name : String} :
    name ∈ groupNames lines ↔ ∃ l ∈ lines, l.group = name := by
  rw [groupNames, List.mem_mergeSort, List.mem_eraseDups, List.mem_map]

theorem length_groups (lines : List Line) : (groups lines).length = (groupNames lines).length := by
  rw [groups, List.length_map]

theorem length_ofGroup (name : String) (lines : List Line) :
    (ofGroup name lines).length = (lines.map Line.group).count name := by
  rw [ofGroup, ← List.countP_eq_length_filter, List.count, List.countP_map]
  apply List.countP_congr
  simp

theorem sum_length_ofGroup (lines : List Line) :
    ((groupNames lines).map fun name => (ofGroup name lines).length).sum = lines.length := by
  have names : (groupNames lines).Perm (lines.map Line.group).dedup :=
    (List.mergeSort_perm _ _).trans (eraseDups_perm_dedup _)
  calc ((groupNames lines).map fun name => (ofGroup name lines).length).sum
      = ((groupNames lines).map fun name => (lines.map Line.group).count name).sum := by
        simp only [length_ofGroup]
    _ = ((lines.map Line.group).dedup.map fun name => (lines.map Line.group).count name).sum :=
        (names.map _).sum_eq
    _ = (lines.map Line.group).length := List.sum_map_count_dedup_eq_length _
    _ = lines.length := List.length_map _

def placed (directory : Place) (groups : List (String × List Line)) : List (Place × String) :=
  groups.map fun (name, lines) => (directory ++ [name ++ ".s"], fileText name lines)

theorem fst_placed (directory : Place) (groups : List (String × List Line)) :
    (placed directory groups).map Prod.fst =
      groups.map fun (name, _) => directory ++ [name ++ ".s"] := by
  simp [placed, Function.comp_def]

theorem mem_placed {directory : Place} {lines : List Line} {name : String}
    (h : name ∈ groupNames lines) :
    (directory ++ [name ++ ".s"], fileText name (ofGroup name lines)) ∈
      placed directory (groups lines) :=
  List.mem_map.mpr ⟨_, List.mem_map.mpr ⟨name, h, rfl⟩, rfl⟩

theorem nodup_fst_placed (directory : Place) (lines : List Line) :
    ((placed directory (groups lines)).map Prod.fst).Nodup := by
  rw [fst_placed, groups, List.map_map]
  refine (nodup_groupNames lines).map fun name other same => ?_
  simpa using same

theorem not_slash_fileName {name : String} (h : '/' ∉ name.toList) :
    '/' ∉ (name ++ ".s").toList := by
  simpa using h

variable {t after : FileTree} {directory : String}

theorem length_of_writeGroups {groups : List (String × List Line)} {paths : List String}
    (h : (writeGroups directory groups).runOn t = (.ok paths, after)) :
    paths.length = groups.length := by
  induction groups generalizing t paths with
  | nil =>
    cases h
    rfl
  | cons group rest ih =>
    obtain ⟨_, between, written, h⟩ := FileWork.runOn_bind_eq_ok.mp h
    obtain ⟨later, last, more, h⟩ := FileWork.runOn_bind_eq_ok.mp h
    cases h
    exact congrArg (· + 1) (ih more)

/-- Files of groups are written to one directory, which the directories alone tell. -/
theorem writeGroups_eq_ok {groups : List (String × List Line)} {paths : List String}
    (plain : ∀ g ∈ groups, '/' ∉ g.1.toList)
    (h : (writeGroups directory groups).runOn t = (.ok paths, after)) :
    after.directories = t.directories ∧
      ∀ place, t.walk (Place.start directory) (Path.components directory) = .ok place →
        after = t.putAll (placed place groups) := by
  induction groups generalizing t paths with
  | nil =>
    cases h
    exact ⟨rfl, fun _ _ => rfl⟩
  | cons group rest ih =>
    obtain ⟨name, lines⟩ := group
    obtain ⟨here, others⟩ := List.forall_mem_cons.mp plain
    obtain ⟨_, between, written, h⟩ := FileWork.runOn_bind_eq_ok.mp h
    obtain ⟨later, last, more, h⟩ := FileWork.runOn_bind_eq_ok.mp h
    cases h
    obtain ⟨same, placed_later⟩ := ih others more
    obtain ⟨front, _, reached, _, rfl⟩ := FileTree.write?_eq_ok (FileWork.write_eq_ok.mp written)
    obtain ⟨rfl, walked⟩ := FileTree.walk_of_approach_join (not_slash_fileName here) reached
    -- The rest was written behind the first file, where paths still lead to the same places.
    refine ⟨same, fun place leads => ?_⟩
    obtain rfl : front = place := Except.ok.inj (walked.symm.trans leads)
    exact placed_later front (FileTree.walk_congr (FileTree.directories_put t _ _).symm leads)

end Listing

end AsmFixtures
