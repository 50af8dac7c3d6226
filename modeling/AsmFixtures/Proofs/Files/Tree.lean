import AsmFixtures.Proofs.Basic
import AsmFixtures.Proofs.Files.Path

/-! What work on a file tree leaves behind. Making directories leaves all files as they are,
and writing leaves all directories. Which place a path leads to depends on the directories
only, so files that are written to one directory one after the other all land there: the tree
is the one before with their texts put in, and nothing else is changed. -/

namespace AsmFixtures

namespace FileTree

variable {t u : FileTree} {place next : Place} {path text : String}

theorem enter_eq_ok_iff {name : String} :
    t.enter place name = .ok next ↔
      if name = "" || name = "." then next = place
      else if name = ".." then next = place.parent
      else name.utf8ByteSize ≤ nameLimit ∧ t.isDirectory (place ++ [name]) = true ∧
        next = place ++ [name] := by
  unfold enter
  by_cases stays : (name = "" || name = ".") = true
  · rw [if_pos stays, if_pos stays, Except.ok.injEq, eq_comm]
  rw [if_neg stays, if_neg stays]
  by_cases up : name = ".."
  · rw [if_pos up, if_pos up, Except.ok.injEq, eq_comm]
  rw [if_neg up, if_neg up]
  by_cases long : nameLimit < name.utf8ByteSize
  · simp [long, Nat.not_le.mpr long]
  by_cases there : t.isDirectory (place ++ [name]) = true
  · simp [long, Nat.not_lt.mp long, there, eq_comm]
  · cases occupied : t.isFile (place ++ [name]) <;> simp [long, there]

theorem enter_mono (more : ∀ p, t.isDirectory p = true → u.isDirectory p = true) {name : String}
    (h : t.enter place name = .ok next) : u.enter place name = .ok next := by
  rw [enter_eq_ok_iff] at h ⊢
  split_ifs at h ⊢
  · exact h
  · exact h
  · exact ⟨h.1, more _ h.2.1, h.2.2⟩

/-- Where names lead to, they lead with more directories too. -/
theorem walk_mono (more : ∀ p, t.isDirectory p = true → u.isDirectory p = true)
    {names : List String} (h : t.walk place names = .ok next) : u.walk place names = .ok next := by
  unfold walk at h ⊢
  induction names generalizing place with
  | nil => exact h
  | cons name rest ih =>
    rw [List.foldlM_cons] at h ⊢
    obtain ⟨inner, entered, h⟩ := bind_eq_ok.mp h
    rw [enter_mono more entered]
    exact ih h

theorem walk_congr (same : t.directories = u.directories) {names : List String}
    (h : t.walk place names = .ok next) : u.walk place names = .ok next :=
  walk_mono (by simp [isDirectory, same]) h

theorem walk_append (first second : List String) :
    t.walk place (first ++ second) = t.walk place first >>= fun p => t.walk p second :=
  List.foldlM_append

theorem examine_eq_ok_iff : examine path = .ok () ↔
    '\x00' ∉ path.toList ∧ path.isEmpty = false ∧ path.utf8ByteSize ≤ pathLimit := by
  unfold examine
  split_ifs with null empty long <;> simp_all

theorem approach_eq_ok_iff {name : String} :
    t.approach path = .ok (place, name) ↔ '\x00' ∉ path.toList ∧ path.isEmpty = false ∧
      path.utf8ByteSize ≤ pathLimit ∧
      t.walk (Place.start path) (Text.split '/' path).dropLast = .ok place ∧
      name = (Text.split '/' path).getLastD "" := by
  constructor
  · intro h
    obtain ⟨⟨⟩, examined, h⟩ := bind_eq_ok.mp h
    obtain ⟨inner, walked, h⟩ := bind_eq_ok.mp h
    cases h
    obtain ⟨null, nonempty, short⟩ := examine_eq_ok_iff.mp examined
    exact ⟨null, nonempty, short, walked, rfl⟩
  · rintro ⟨null, nonempty, short, walked, rfl⟩
    have examined := examine_eq_ok_iff.mpr ⟨null, nonempty, short⟩
    exact bind_eq_ok.mpr ⟨(), examined, bind_eq_ok.mpr ⟨place, walked, rfl⟩⟩

theorem approach_mono (more : ∀ p, t.isDirectory p = true → u.isDirectory p = true)
    {name : String} (h : t.approach path = .ok (place, name)) :
    u.approach path = .ok (place, name) := by
  obtain ⟨null, nonempty, short, walked, last⟩ := approach_eq_ok_iff.mp h
  exact approach_eq_ok_iff.mpr ⟨null, nonempty, short, walk_mono more walked, last⟩

theorem approach_congr (same : t.directories = u.directories) {name : String}
    (h : t.approach path = .ok (place, name)) : u.approach path = .ok (place, name) :=
  approach_mono (by simp [isDirectory, same]) h

theorem find?_of_approach {name : String} (h : t.approach path = .ok (place, name)) :
    t.find? path =
      if isDots name then (t.enter place name).map (·, none)
      else if nameLimit < name.utf8ByteSize then .error .nameTooLong
      else if t.isDirectory (place ++ [name]) then .ok (place ++ [name], none)
      else
        match t.text? (place ++ [name]) with
        | some text => .ok (place ++ [name], some text)
        | none => .error .absent := by
  rw [find?, h]
  change (if isDots name then _ else _) = _
  split
  · cases t.enter place name <;> rfl
  · rfl

theorem walk_split_eq_ok_iff {directory : String} :
    t.walk place (Text.split '/' directory) = .ok next ↔
      ∃ inner, t.walk place (Text.split '/' directory).dropLast = .ok inner ∧
        t.enter inner ((Text.split '/' directory).getLastD "") = .ok next := by
  have pieces : Text.split '/' directory ≠ [] := by
    simpa [Text.split] using Text.Chars.split_ne_nil '/' directory.toList
  have last : (Text.split '/' directory).getLastD "" =
      (Text.split '/' directory).getLast pieces := by
    rw [List.getLastD_eq_getLast?, List.getLast?_eq_some_getLast pieces, Option.getD_some]
  have steps : t.walk place (Text.split '/' directory) =
      t.walk place (Text.split '/' directory).dropLast >>= fun inner =>
        t.walk inner [(Text.split '/' directory).getLast pieces] := by
    rw [← walk_append, List.dropLast_concat_getLast pieces]
  rw [steps, bind_eq_ok, last]
  simp [walk]

theorem walk_components_eq_ok_iff {directory : String} (nonempty : directory.isEmpty = false) :
    t.walk place (Path.components directory) = .ok next ↔
      ∃ inner, t.walk place (Text.split '/' directory).dropLast = .ok inner ∧
        t.enter inner ((Text.split '/' directory).getLastD "") = .ok next := by
  by_cases slash : Path.endsInSlash directory = true
  · have components : Path.components directory = (Text.split '/' directory).dropLast := by
      simp [Path.components, nonempty, slash]
    have last : (Text.split '/' directory).getLastD "" = "" := by
      obtain ⟨front, pieces⟩ := Path.split_of_endsInSlash slash
      rw [pieces, List.getLastD_concat]
    rw [components, last]
    simp [enter]
  · have components : Path.components directory = Text.split '/' directory := by
      simp [Path.components, nonempty, slash]
    rw [components, walk_split_eq_ok_iff]

theorem find?_of_enter {name : String} (reached : t.approach path = .ok (place, name))
    (entered : t.enter place name = .ok next) : t.find? path = .ok (next, none) := by
  rw [find?_of_approach reached]
  by_cases dots : isDots name = true
  · rw [if_pos dots, entered]
    rfl
  · obtain ⟨stays, up⟩ : ¬ (name = "" || name = ".") = true ∧ name ≠ ".." := by
      simpa [isDots, and_assoc] using dots
    rw [enter_eq_ok_iff, if_neg stays, if_neg up] at entered
    obtain ⟨short, there, rfl⟩ := entered
    rw [if_neg dots, if_neg (Nat.not_lt.mpr short), if_pos there]

theorem enter_of_find? (h : t.find? path = .ok (next, none)) :
    ∃ place name, t.approach path = .ok (place, name) ∧ t.enter place name = .ok next := by
  cases reached : t.approach path with
  | error fault =>
    rw [find?, reached] at h
    cases h
  | ok target =>
    obtain ⟨place, name⟩ := target
    refine ⟨place, name, rfl, ?_⟩
    rw [find?_of_approach reached] at h
    by_cases dots : isDots name = true
    · rw [if_pos dots] at h
      cases entered : t.enter place name <;> simp [entered, Except.map] at h
      rw [h]
    · obtain ⟨stays, up⟩ : ¬ (name = "" || name = ".") = true ∧ name ≠ ".." := by
        simpa [isDots, and_assoc] using dots
      rw [if_neg dots] at h
      rw [enter_eq_ok_iff, if_neg stays, if_neg up]
      split_ifs at h with long there
      · simp only [Except.ok.injEq, Prod.mk.injEq, and_true] at h
        exact ⟨Nat.not_lt.mp long, there, h.symm⟩
      · cases held : t.text? (place ++ [name]) <;> simp [held] at h

theorem walk_of_approach_join {directory name last : String} (plain : '/' ∉ name.toList)
    (h : t.approach (Path.join directory name) = .ok (place, last)) :
    last = name ∧ t.walk (Place.start directory) (Path.components directory) = .ok place := by
  obtain ⟨_, _, _, walked, ends⟩ := approach_eq_ok_iff.mp h
  rw [Path.split_join plain, List.dropLast_concat, Path.start_join plain] at walked
  rw [Path.split_join plain, List.getLastD_concat] at ends
  exact ⟨ends, walked⟩

theorem approach_join {directory name : String} (plain : '/' ∉ name.toList)
    (nullFree : '\x00' ∉ name.toList)
    (fits : (Path.join directory name).utf8ByteSize ≤ pathLimit)
    (found : t.find? directory = .ok (place, none)) :
    t.approach (Path.join directory name) = .ok (place, name) := by
  obtain ⟨inner, last, reached, entered⟩ := enter_of_find? found
  obtain ⟨null, nonempty, _, walked, rfl⟩ := approach_eq_ok_iff.mp reached
  have leads : t.walk (Place.start directory) (Path.components directory) = .ok place :=
    (walk_components_eq_ok_iff nonempty).mpr ⟨inner, walked, entered⟩
  have noNull : '\x00' ∉ (Path.join directory name).toList := by
    intro mem
    rcases Path.mem_of_mem_join plain mem with mem | mem | mem
    · exact null mem
    · cases mem
    · exact nullFree mem
  have filled : (Path.join directory name).isEmpty = false := by
    have within := Path.toList_subset_join directory plain
    by_contra empty
    have joined : Path.join directory name = "" := by simpa using empty
    have nothing : directory = "" := by simpa [joined] using within
    simp [nothing] at nonempty
  refine approach_eq_ok_iff.mpr ⟨noNull, filled, fits, ?_, ?_⟩
  · rw [Path.split_join plain, List.dropLast_concat, Path.start_join plain, leads]
  · rw [Path.split_join plain, List.getLastD_concat]

theorem find?_of_approach_join {directory name last : String} (plain : '/' ∉ name.toList)
    (nonempty : directory.isEmpty = false)
    (h : t.approach (Path.join directory name) = .ok (place, last)) :
    t.find? directory = .ok (place, none) := by
  obtain ⟨_, walked⟩ := walk_of_approach_join plain h
  obtain ⟨null, _, short, _⟩ := approach_eq_ok_iff.mp h
  have nullFree : '\x00' ∉ directory.toList :=
    fun mem => null (Path.toList_subset_join directory plain mem)
  have fits : directory.utf8ByteSize ≤ pathLimit :=
    Nat.le_trans (Path.utf8ByteSize_le_join directory plain) short
  obtain ⟨inner, reached, entered⟩ := (walk_components_eq_ok_iff nonempty).mp walked
  exact find?_of_enter (approach_eq_ok_iff.mpr ⟨nullFree, nonempty, fits, reached, rfl⟩) entered

theorem isDots_iff {name : String} :
    isDots name = true ↔ name = "" ∨ name = "." ∨ name = ".." := by
  simp [isDots, or_assoc]

theorem endsInSlash_of_approach {name : String} (reached : t.approach path = .ok (place, name))
    (apart : isDots name = false) : Path.endsInSlash path = false := by
  by_contra slash
  obtain ⟨front, pieces⟩ := Path.split_of_endsInSlash (Bool.not_eq_false _ ▸ slash)
  obtain ⟨_, _, _, _, last⟩ := approach_eq_ok_iff.mp reached
  rw [pieces, List.getLastD_concat] at last
  exact absurd apart (by simp [last, isDots])

theorem target?_eq_ok_iff : t.target? path = .ok next ↔ ∃ place name,
    t.approach path = .ok (place, name) ∧ isDots name = false ∧ name.utf8ByteSize ≤ nameLimit ∧
      t.isDirectory (place ++ [name]) = false ∧ next = place ++ [name] := by
  constructor
  · intro h
    unfold target? at h
    split at h
    · cases h
    obtain ⟨⟨place, name⟩, reached, h⟩ := bind_eq_ok.mp h
    dsimp only at h
    split_ifs at h with dots long there
    cases h
    exact ⟨place, name, reached, Bool.eq_false_iff.mpr dots, Nat.not_lt.mp long,
      Bool.eq_false_iff.mpr there, rfl⟩
  · rintro ⟨place, name, reached, apart, short, free, rfl⟩
    rw [target?, endsInSlash_of_approach reached apart, if_neg Bool.false_ne_true]
    refine bind_eq_ok.mpr ⟨(place, name), reached, ?_⟩
    dsimp only
    rw [apart, if_neg Bool.false_ne_true, if_neg (Nat.not_lt.mpr short), free,
      if_neg Bool.false_ne_true]
    rfl

/-- A text is written to the place that its path approaches, or not at all. -/
theorem write?_eq_ok (h : t.write? path text = .ok u) :
    ∃ place name, t.approach path = .ok (place, name) ∧ name.utf8ByteSize ≤ nameLimit ∧
      u = t.put (place ++ [name]) text := by
  cases target : t.target? path with
  | error fault =>
    rw [write?, target] at h
    cases h
  | ok next =>
    rw [write?, target] at h
    obtain ⟨place, name, reached, _, short, _, rfl⟩ := target?_eq_ok_iff.mp target
    exact ⟨place, name, reached, short, (Except.ok.inj h).symm⟩

theorem write?_of_approach {name : String} (reached : t.approach path = .ok (place, name))
    (apart : isDots name = false) (short : name.utf8ByteSize ≤ nameLimit)
    (free : t.isDirectory (place ++ [name]) = false) :
    t.write? path text = .ok (t.put (place ++ [name]) text) := by
  rw [write?, target?_eq_ok_iff.mpr ⟨place, name, reached, apart, short, free, rfl⟩]

theorem files_of_makeDirectory? (h : t.makeDirectory? path = .ok u) : u.files = t.files := by
  unfold makeDirectory? at h
  dsimp only at h
  split at h
  · cases h
  · cases h
  · split_ifs at h
    cases h
    rfl

@[simp] theorem directories_put (t : FileTree) (place : Place) (text : String) :
    (t.put place text).directories = t.directories := rfl

theorem text?_put (t : FileTree) (place other : Place) (text : String) :
    (t.put place text).text? other = if other = place then some text else t.text? other := by
  unfold text? put
  rw [List.lookup_append]
  by_cases same : other = place
  · subst same
    have none : (t.files.filter (·.1 ≠ other)).lookup other = none := by
      rw [List.lookup_eq_none_iff]
      intro entry mem
      have apart : entry.1 ≠ other := by simpa using (List.mem_filter.mp mem).2
      simp [Ne.symm apart]
    rw [none, if_pos rfl]
    simp
  · rw [lookup_filter_ne same, if_neg same]
    have apart : (other == place) = false := by simp [same]
    simp [List.lookup_cons, apart]

def putAll (t : FileTree) (written : List (Place × String)) : FileTree :=
  written.foldl (fun t (place, text) => t.put place text) t

@[simp] theorem directories_putAll (written : List (Place × String)) (t : FileTree) :
    (t.putAll written).directories = t.directories := by
  induction written generalizing t with
  | nil => rfl
  | cons entry rest ih => exact ih (t.put entry.1 entry.2)

theorem text?_putAll_of_not_mem {written : List (Place × String)}
    (h : place ∉ written.map Prod.fst) (t : FileTree) :
    (t.putAll written).text? place = t.text? place := by
  induction written generalizing t with
  | nil => rfl
  | cons entry rest ih =>
    obtain ⟨apart, later⟩ := not_or.mp (mt List.mem_cons.mpr h)
    rw [putAll, List.foldl_cons]
    exact (ih later _).trans ((text?_put t entry.1 place entry.2).trans (if_neg apart))

theorem text?_putAll_of_mem {written : List (Place × String)}
    (distinct : (written.map Prod.fst).Nodup) (mem : (place, text) ∈ written) (t : FileTree) :
    (t.putAll written).text? place = some text := by
  induction written generalizing t with
  | nil => cases mem
  | cons entry rest ih =>
    obtain ⟨fresh, distinct⟩ := List.nodup_cons.mp distinct
    rw [putAll, List.foldl_cons]
    rcases List.mem_cons.mp mem with rfl | mem
    · exact (text?_putAll_of_not_mem fresh _).trans
        ((text?_put t place place text).trans (if_pos rfl))
    · exact ih distinct mem _

end FileTree

namespace FileWork

variable {α β : Type}

@[simp] theorem runOn_pure (a : α) (t : FileTree) :
    (pure a : FileWork α).runOn t = (.ok a, t) := rfl

@[simp] theorem runOn_get (t : FileTree) : (get : FileWork FileTree).runOn t = (.ok t, t) := rfl

@[simp] theorem runOn_bind (work : FileWork α) (next : α → FileWork β) (t : FileTree) :
    (work >>= next).runOn t =
      match work.runOn t with
      | (.ok a, after) => (next a).runOn after
      | (.error e, after) => (.error e, after) := by
  change (work.run >>= ExceptT.bindCont next).run t = _
  simp only [StateT.run_bind, runOn]
  rcases work.run.run t with ⟨_ | a, after⟩ <;> rfl

@[simp] theorem runOn_tryCatch (work : FileWork α) (handler : FileError → FileWork α)
    (t : FileTree) :
    (tryCatch work handler).runOn t =
      match work.runOn t with
      | (.ok a, after) => (.ok a, after)
      | (.error e, after) => (handler e).runOn after := by
  simp only [runOn, ExceptT.run_tryCatch, StateT.run_bind]
  rcases work.run.run t with ⟨_ | a, after⟩ <;> rfl

theorem runOn_change (f : FileTree → Except FileError FileTree) (t : FileTree) :
    (change f).runOn t =
      match f t with
      | .ok next => (.ok (), next)
      | .error e => (.error e, t) := by
  simp only [change, runOn_bind, runOn_get]
  cases f t <;> rfl

theorem runOn_bind_eq_ok {work : FileWork α} {next : α → FileWork β} {t after : FileTree}
    {b : β} :
    (work >>= next).runOn t = (.ok b, after) ↔
      ∃ a between, work.runOn t = (.ok a, between) ∧ (next a).runOn between = (.ok b, after) := by
  rw [runOn_bind]
  rcases work.runOn t with ⟨_ | a, between⟩ <;> simp

theorem write_eq_ok {path text : String} {t after : FileTree} :
    (write path text).runOn t = (.ok (), after) ↔ t.write? path text = .ok after := by
  rw [write, runOn_change]
  cases t.write? path text <;> simp

def KeepsFiles (work : FileWork α) : Prop := ∀ t, (work.runOn t).2.files = t.files

theorem keepsFiles_pure (a : α) : KeepsFiles (pure a) := fun _ => rfl

theorem keepsFiles_throw (e : FileError) : KeepsFiles (throw e : FileWork α) := fun _ => rfl

theorem keepsFiles_get : KeepsFiles get := fun _ => rfl

theorem keepsFiles_bind {work : FileWork α} {next : α → FileWork β} (first : KeepsFiles work)
    (rest : ∀ a, KeepsFiles (next a)) : KeepsFiles (work >>= next) := by
  intro t
  have here := first t
  rw [runOn_bind]
  rcases reply : work.runOn t with ⟨_ | a, after⟩ <;> rw [reply] at here
  · exact here
  · exact (rest a after).trans here

theorem keepsFiles_tryCatch {work : FileWork α} {handler : FileError → FileWork α}
    (first : KeepsFiles work) (rest : ∀ e, KeepsFiles (handler e)) :
    KeepsFiles (tryCatch work handler) := by
  intro t
  have here := first t
  rw [runOn_tryCatch]
  rcases reply : work.runOn t with ⟨e | _, after⟩ <;> rw [reply] at here
  · exact (rest e after).trans here
  · exact here

theorem keepsFiles_makeDirectory (path : String) :
    KeepsFiles (change (·.makeDirectory? path)) := by
  intro t
  rw [runOn_change]
  cases made : t.makeDirectory? path with
  | error e => rfl
  | ok next =>
    exact FileTree.files_of_makeDirectory? made

theorem keepsFiles_ensureDirectoryAtMost (fuel : Nat) (path : List Char) :
    KeepsFiles (ensureDirectoryAtMost fuel path) := by
  induction fuel generalizing path with
  | zero => exact keepsFiles_pure ()
  | succ fuel ih =>
    rw [ensureDirectoryAtMost]
    rcases frontAndLast path with ⟨front, name⟩
    apply keepsFiles_bind keepsFiles_get
    intro tree
    dsimp only
    -- The directory itself is made last, whether one in front of it was missing or not.
    have last : ∀ done : Bool, KeepsFiles (if done = true then pure () else
        tryCatch (change (·.makeDirectory? (String.ofList path))) fun e => do
          if (← get).hasDirectory (String.ofList path) then return () else throw e) := by
      intro done
      split
      · exact keepsFiles_pure ()
      · apply keepsFiles_tryCatch (keepsFiles_makeDirectory _)
        intro e
        apply keepsFiles_bind keepsFiles_get
        intro after
        split
        · exact keepsFiles_pure ()
        · exact keepsFiles_throw e
    split
    · apply keepsFiles_bind
      · apply keepsFiles_tryCatch (ih _)
        intro e
        split
        · exact keepsFiles_pure ()
        · exact keepsFiles_throw e
      · exact fun _ => last _
    · exact last _

theorem keepsFiles_ensureDirectory (path : String) : KeepsFiles (ensureDirectory path) :=
  keepsFiles_ensureDirectoryAtMost _ _

theorem not_ensureDirectory_empty (t : FileTree) :
    ∃ e, (ensureDirectory "").runOn t = (.error e, t) := ⟨_, rfl⟩

end FileWork

end AsmFixtures
