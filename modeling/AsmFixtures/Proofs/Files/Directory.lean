import AsmFixtures.Proofs.Files.Tree
import Mathlib.Data.List.Induction

/-! Making a directory with all that it lies in. When that succeeds, the directory is there;
and when it is there already, nothing is made. Both are about paths that end in a name: the
path in front of the name, without the slashes between the two, leads to the directory that
the name is made in. -/

namespace AsmFixtures

/-- A component that a path can end with, so that it names something of its own. -/
structure ProperName (name : String) : Prop where
  no_slash : '/' ∉ name.toList
  not_dots : FileTree.isDots name = false

namespace ProperName

variable {name : String}

theorem ne_empty (h : ProperName name) : name ≠ "" := by
  rintro rfl
  exact absurd h.not_dots (by decide)

theorem ne_dot (h : ProperName name) : name.toList ≠ ['.'] := by
  intro dot
  have same : name = "." := String.toList_injective dot
  exact absurd h.not_dots (by simp [same, FileTree.isDots])

theorem exists_last (h : ProperName name) :
    ∃ opening c, name.toList = opening ++ [c] ∧ c ≠ '/' := by
  have nonempty : name.toList ≠ [] := by simpa using h.ne_empty
  refine ⟨_, _, (List.dropLast_append_getLast nonempty).symm, fun same => h.no_slash ?_⟩
  rw [← same]
  exact List.getLast_mem nonempty

end ProperName

namespace Path

theorem dropEndSlashes_concat (s : List Char) (c : Char) :
    dropEndSlashes (s ++ [c]) = if c = '/' then dropEndSlashes s else s ++ [c] := by
  unfold dropEndSlashes
  rw [List.reverse_concat, List.dropWhile_cons]
  split_ifs <;> simp_all

theorem exists_front (directory : String) {name : String} (h : ProperName name) :
    ∃ front : String, (front = "" ∨ endsInSlash front = true) ∧
      join directory name = front ++ name ∧ join front name = front ++ name := by
  have relative := not_isAbsolute h.no_slash
  unfold join
  simp only [relative, Bool.false_eq_true, if_false]
  split_ifs with closed
  · refine ⟨directory, by simpa using closed, rfl, if_pos closed⟩
  · exact ⟨directory ++ "/", .inr (by simp [endsInSlash]), rfl, if_pos (by simp [endsInSlash])⟩

theorem cutLast_append {front last : List Char} (closed : front = [] ∨ front.getLast? = some '/')
    (plain : '/' ∉ last) :
    cutLast (front ++ last) =
      (if front.all (· = '/') then front else dropEndSlashes front, last) := by
  have inside : ∀ c ∈ last.reverse, (decide (c ≠ '/')) = true := by
    intro c mem
    have apart : c ≠ '/' := fun same => plain (same ▸ List.mem_reverse.mp mem)
    simpa using apart
  have stops : front.reverse.takeWhile (· ≠ '/') = [] ∧
      front.reverse.dropWhile (· ≠ '/') = front.reverse := by
    rcases closed with rfl | slash
    · exact ⟨rfl, rfl⟩
    · obtain ⟨opening, rfl⟩ := List.getLast?_eq_some_iff.mp slash
      simp
  unfold cutLast
  rw [List.reverse_append, List.takeWhile_append_of_pos inside, List.dropWhile_append_of_pos inside,
    stops.1, stops.2]
  simp only [List.append_nil, List.reverse_reverse]
  split <;> rfl

end Path

namespace FileTree

variable {t u : FileTree} {place : Place}

theorem find?_of_slash {path : String} (nonempty : path.isEmpty = false)
    (h : t.find? (path ++ "/") = .ok (place, none)) : t.find? path = .ok (place, none) := by
  obtain ⟨inner, last, reached, entered⟩ := enter_of_find? h
  obtain ⟨null, _, short, walked, rfl⟩ := approach_eq_ok_iff.mp reached
  have pieces : Text.split '/' (path ++ "/") = Text.split '/' path ++ [""] := by
    simp [Text.split, Text.Chars.split_append]
  have start : Place.start (path ++ "/") = Place.start path := by
    have filled : path.toList ≠ [] := by simpa using nonempty
    obtain ⟨c, rest, cut⟩ := List.exists_cons_of_ne_nil filled
    simp [Place.start, Path.isAbsolute, Text.startsWith, cut, List.isPrefixOf]
  rw [pieces, List.dropLast_concat, start, walk_split_eq_ok_iff] at walked
  rw [pieces, List.getLastD_concat] at entered
  obtain rfl : inner = place := by simpa [enter] using entered
  obtain ⟨outer, before, into⟩ := walked
  have nullFree : '\x00' ∉ path.toList := fun mem => null (by simp [mem])
  have fits : path.utf8ByteSize ≤ pathLimit := by
    rw [String.utf8ByteSize_append] at short
    omega
  exact find?_of_enter (approach_eq_ok_iff.mpr ⟨nullFree, nonempty, fits, before, rfl⟩) into

theorem find?_dropEndSlashes {path : List Char} (other : path.all (· = '/') = false)
    (h : t.find? (String.ofList path) = .ok (place, none)) :
    t.find? (String.ofList (Path.dropEndSlashes path)) = .ok (place, none) := by
  induction path using List.reverseRecOn with
  | nil => simp at other
  | append_singleton path c ih =>
    rw [Path.dropEndSlashes_concat]
    split_ifs with slash
    · subst slash
      have before : path.all (· = '/') = false := by simpa using other
      have nonempty : (String.ofList path).isEmpty = false := by
        cases path with
        | nil => simp at before
        | cons c rest => simp
      rw [String.ofList_append] at h
      exact ih before (find?_of_slash nonempty h)
    · exact h

variable {directory name : String}

theorem hasDirectory_iff {path : String} :
    t.hasDirectory path = true ↔ ∃ place, t.find? path = .ok (place, none) := by
  unfold hasDirectory
  rcases t.find? path with fault | ⟨place, _ | text⟩ <;> simp

theorem find?_front (h : ProperName name) {front : String} (closed : Path.endsInSlash front = true)
    (joined : Path.join front name = front ++ name)
    (there : t.hasDirectory (front ++ name) = true) :
    ∃ place, t.find? (String.ofList (Path.cutLast (front ++ name).toList).1) =
      .ok (place, none) := by
  have ends : front.toList.getLast? = some '/' := by simpa [Path.endsInSlash] using closed
  have nonempty : front.isEmpty = false := by
    by_contra empty
    simp [String.isEmpty_iff.mp (Bool.not_eq_false _ ▸ empty)] at ends
  obtain ⟨_, found⟩ := hasDirectory_iff.mp there
  obtain ⟨place, last, reached, _⟩ := enter_of_find? found
  have leads : t.find? front = .ok (place, none) :=
    find?_of_approach_join h.no_slash nonempty (joined ▸ reached)
  refine ⟨place, ?_⟩
  rw [String.toList_append, Path.cutLast_append (.inr ends) h.no_slash]
  split_ifs with slashes
  · rwa [String.ofList_toList]
  · exact find?_dropEndSlashes (Bool.eq_false_iff.mpr slashes) (by rwa [String.ofList_toList])

theorem trimmed_join (h : ProperName name) :
    String.ofList (Path.dropEndSlashes (Path.join directory name).toList) =
      Path.join directory name := by
  obtain ⟨front, _, joined, _⟩ := Path.exists_front directory h
  obtain ⟨opening, c, cut, apart⟩ := h.exists_last
  rw [joined, String.toList_append, cut, ← List.append_assoc, Path.dropEndSlashes_concat,
    if_neg apart, List.append_assoc, ← cut, ← String.toList_append, String.ofList_toList]

theorem of_makeDirectory?_join (h : ProperName name)
    (made : t.makeDirectory? (Path.join directory name) = .ok u) :
    ∃ place, t.approach (Path.join directory name) = .ok (place, name) ∧
      name.utf8ByteSize ≤ nameLimit ∧ t.isDirectory (place ++ [name]) = false ∧
      u = t.addDirectory (place ++ [name]) := by
  unfold makeDirectory? at made
  rw [trimmed_join h] at made
  dsimp only at made
  split at made
  · cases made
  · cases made
  · rename_i place last _ reached
    obtain ⟨rfl, _⟩ := walk_of_approach_join h.no_slash reached
    simp only [h.not_dots, Bool.false_eq_true, if_false] at made
    split_ifs at made with long occupied
    cases made
    simp only [Bool.or_eq_true, not_or, Bool.not_eq_true] at occupied
    exact ⟨place, reached, Nat.not_lt.mp long, occupied.1, rfl⟩

theorem hasDirectory_of_makeDirectory?_join (h : ProperName name)
    (made : t.makeDirectory? (Path.join directory name) = .ok u) :
    u.hasDirectory (Path.join directory name) = true := by
  obtain ⟨place, reached, short, _, rfl⟩ := of_makeDirectory?_join h made
  have more : ∀ p, t.isDirectory p = true →
      (t.addDirectory (place ++ [name])).isDirectory p = true := by
    intro p old
    simp only [isDirectory, addDirectory, Bool.or_eq_true, List.contains_append] at old ⊢
    exact old.imp_right .inl
  have reachedAfter := approach_mono more reached
  have made : (t.addDirectory (place ++ [name])).isDirectory (place ++ [name]) = true := by
    simp [isDirectory, addDirectory]
  rw [hasDirectory_iff]
  refine ⟨place ++ [name], ?_⟩
  rw [find?_of_approach reachedAfter, h.not_dots, if_neg Bool.false_ne_true,
    if_neg (Nat.not_lt.mpr short), if_pos made]

theorem exists_error_makeDirectory?_join (h : ProperName name)
    (there : t.hasDirectory (Path.join directory name) = true) :
    ∃ e, t.makeDirectory? (Path.join directory name) = .error e := by
  cases made : t.makeDirectory? (Path.join directory name) with
  | error e => exact ⟨e, rfl⟩
  | ok u =>
    obtain ⟨place, reached, short, free, _⟩ := of_makeDirectory?_join h made
    obtain ⟨_, found⟩ := hasDirectory_iff.mp there
    rw [find?_of_approach reached, h.not_dots, if_neg Bool.false_ne_true,
      if_neg (Nat.not_lt.mpr short), if_neg (by simp [free])] at found
    cases held : t.text? (place ++ [name]) <;> simp [held] at found

end FileTree

namespace FileWork

variable {t u : FileTree} {directory name : String}

def makeLast (path : String) : FileWork Unit :=
  tryCatch (change (·.makeDirectory? path)) fun e => do
    if (← get).hasDirectory path then return () else throw e

theorem hasDirectory_of_makeLast (h : ProperName name)
    (run : (makeLast (Path.join directory name)).runOn t = (.ok (), u)) :
    u.hasDirectory (Path.join directory name) = true := by
  rw [makeLast, runOn_tryCatch, runOn_change] at run
  cases made : t.makeDirectory? (Path.join directory name) with
  | ok next =>
    rw [made] at run
    cases run
    exact FileTree.hasDirectory_of_makeDirectory?_join h made
  | error e =>
    simp only [made, runOn_bind, runOn_get] at run
    split_ifs at run with there
    · cases run
      exact there
    · cases run

theorem makeLast_of_hasDirectory (h : ProperName name)
    (there : t.hasDirectory (Path.join directory name) = true) :
    (makeLast (Path.join directory name)).runOn t = (.ok (), t) := by
  obtain ⟨e, failed⟩ := FileTree.exists_error_makeDirectory?_join h there
  rw [makeLast, runOn_tryCatch, runOn_change, failed]
  simp [there]

theorem runOn_ensureDirectoryAtMost {fuel : Nat} {path front last : List Char}
    (parts : frontAndLast path = (front, last)) (apart : last ≠ ['.']) (t : FileTree) :
    (ensureDirectoryAtMost (fuel + 1) path).runOn t =
      if ! front.isEmpty && ! last.isEmpty && ! t.hasPath (String.ofList front) then
        (tryCatch (ensureDirectoryAtMost fuel front) (fun e =>
          if e.fault = .occupied then return () else throw e) >>= fun _ =>
            makeLast (String.ofList path)).runOn t
      else (makeLast (String.ofList path)).runOn t := by
  rw [ensureDirectoryAtMost, parts]
  simp only [apart, decide_false, Bool.and_false, Bool.false_eq_true, if_false]
  rw [runOn_bind, runOn_get]
  dsimp only
  split <;> rfl

theorem frontAndLast_append {front name : String} (h : ProperName name)
    (closed : front = "" ∨ Path.endsInSlash front = true) :
    frontAndLast (front ++ name).toList =
      ((Path.cutLast (front ++ name).toList).1, name.toList) := by
  have ends : front.toList = [] ∨ front.toList.getLast? = some '/' := by
    simpa [Path.endsInSlash] using closed
  obtain ⟨c, rest, filled⟩ := List.exists_cons_of_ne_nil
    (show name.toList ≠ [] by simpa using h.ne_empty)
  have cut := Path.cutLast_append ends h.no_slash
  rw [frontAndLast, String.toList_append, cut, filled]

theorem hasDirectory_of_ensureDirectory (h : ProperName name)
    (run : (ensureDirectory (Path.join directory name)).runOn t = (.ok (), u)) :
    u.hasDirectory (Path.join directory name) = true := by
  obtain ⟨front, closed, joined, _⟩ := Path.exists_front directory h
  have parts := frontAndLast_append h closed
  rw [← joined] at parts
  rw [ensureDirectory, runOn_ensureDirectoryAtMost parts h.ne_dot] at run
  simp only [String.ofList_toList] at run
  split_ifs at run
  · obtain ⟨_, between, _, last⟩ := runOn_bind_eq_ok.mp run
    exact hasDirectory_of_makeLast h last
  · exact hasDirectory_of_makeLast h run

theorem ensureDirectory_of_hasDirectory (h : ProperName name)
    (there : t.hasDirectory (Path.join directory name) = true) :
    (ensureDirectory (Path.join directory name)).runOn t = (.ok (), t) := by
  obtain ⟨front, closed, joined, rejoined⟩ := Path.exists_front directory h
  have parts := frontAndLast_append h closed
  rw [← joined] at parts
  have nothing_missing : (! (Path.cutLast (Path.join directory name).toList).1.isEmpty &&
      ! name.toList.isEmpty && ! t.hasPath
        (String.ofList (Path.cutLast (Path.join directory name).toList).1)) = false := by
    rcases closed with rfl | slash
    · have cut : Path.cutLast ([] ++ name.toList) = ([], name.toList) :=
        Path.cutLast_append (.inl rfl) h.no_slash
      rw [joined, String.empty_append, ← List.nil_append name.toList, cut]
      rfl
    · rw [joined] at there ⊢
      obtain ⟨place, leads⟩ := FileTree.find?_front h slash rejoined there
      rw [FileTree.hasPath, leads]
      simp [Except.toBool]
  rw [ensureDirectory, runOn_ensureDirectoryAtMost parts h.ne_dot, nothing_missing,
    if_neg Bool.false_ne_true, String.ofList_toList]
  exact makeLast_of_hasDirectory h there

end FileWork

end AsmFixtures
