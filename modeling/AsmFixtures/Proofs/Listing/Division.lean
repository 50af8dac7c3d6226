import AsmFixtures.Proofs.Listing
import AsmFixtures.Proofs.Text.Pieces

/-! How writing divides the lines among files. Each group has a file with its lines in their
order, and the names of the groups are what the lines tell, sorted. What is written depends
only on the lines of each group, and one more line changes only the file of its own. A name
that is too long for a file stops the writing. -/

namespace AsmFixtures

namespace Listing

/-- A name that fills one component of a path. -/
structure PlainName (name : String) : Prop where
  noSlash : '/' ∉ name.toList
  noNull : '\x00' ∉ name.toList

structure Fits (directory name : String) : Prop where
  shortName : (name ++ ".s").utf8ByteSize ≤ FileTree.nameLimit
  shortPath : (filePath directory name).utf8ByteSize ≤ FileTree.pathLimit

instance (name : String) : Decidable (PlainName name) :=
  decidable_of_iff ('/' ∉ name.toList ∧ '\x00' ∉ name.toList)
    ⟨fun h => ⟨h.1, h.2⟩, fun h => ⟨h.1, h.2⟩⟩

instance (directory name : String) : Decidable (Fits directory name) :=
  decidable_of_iff ((name ++ ".s").utf8ByteSize ≤ FileTree.nameLimit ∧
      (filePath directory name).utf8ByteSize ≤ FileTree.pathLimit)
    ⟨fun h => ⟨h.1, h.2⟩, fun h => ⟨h.1, h.2⟩⟩

/-- Making sure of the directory gives a tree in which there is nothing in it. -/
structure FreshDirectory (before : FileTree) (directory : String) (made : FileTree)
    (place : Place) : Prop where
  ensured : (FileWork.ensureDirectory directory).runOn before = (.ok (), made)
  found : made.find? directory = .ok (place, none)
  noDirectory : ∀ name, place ++ [name] ∉ made.directories
  noFile : ∀ name, made.text? (place ++ [name]) = none

/-- A tree with a file for each group of the lines, and all else as it was before. -/
structure Divided (place : Place) (lines : List Line) (before after : FileTree) : Prop where
  groups : ∀ name ∈ groupNames lines, after.text? (place ++ [name ++ ".s"]) =
    some (header name ++ Text.concat ((ofGroup name lines).map Line.text) ++ footer)
  others : ∀ p, (∀ name ∈ groupNames lines, p ≠ place ++ [name ++ ".s"]) →
    after.text? p = before.text? p

theorem pairwise_groupNames (lines : List Line) : (groupNames lines).Pairwise (· < ·) := by
  have sorted : (groupNames lines).Pairwise fun a b => decide (a ≤ b) = true := by
    refine List.pairwise_mergeSort (fun a b c first second => ?_) (fun a b => ?_) _
    · simp only [decide_eq_true_eq] at first second ⊢
      exact String.le_trans first second
    · simpa using String.le_total a b
  refine (sorted.and (nodup_groupNames lines)).imp fun {a b} h => ?_
  exact Std.lt_of_le_of_ne (of_decide_eq_true h.1) h.2

theorem mem_groupNames_iff_ofGroup {lines : List Line} {name : String} :
    name ∈ groupNames lines ↔ ofGroup name lines ≠ [] := by
  rw [mem_groupNames, ofGroup, Ne, List.filter_eq_nil_iff]
  simp

theorem exists_line_of_mem_groups {lines : List Line} {g : String × List Line}
    (mem : g ∈ groups lines) : ∃ l ∈ lines, l.group = g.1 := by
  obtain ⟨name, named, rfl⟩ := List.mem_map.mp mem
  exact mem_groupNames.mp named

theorem groups_congr {lines reordered : List Line}
    (same : ∀ name, ofGroup name reordered = ofGroup name lines) :
    groups reordered = groups lines := by
  have members : ∀ name, name ∈ groupNames reordered ↔ name ∈ groupNames lines := by
    intro name
    rw [mem_groupNames_iff_ofGroup, mem_groupNames_iff_ofGroup, same]
  have names : groupNames reordered = groupNames lines :=
    List.Perm.eq_of_pairwise (fun _ _ _ _ less greater => String.lt_asymm less greater |>.elim)
      (pairwise_groupNames reordered) (pairwise_groupNames lines)
      ((List.perm_ext_iff_of_nodup (nodup_groupNames _) (nodup_groupNames _)).mpr members)
  rw [groups, groups, names]
  exact List.map_congr_left fun name _ => congrArg (Prod.mk name) (same name)

theorem count_ofGroup (l : Line) (name : String) (lines : List Line) :
    (ofGroup name lines).count l = if l.group = name then lines.count l else 0 := by
  split
  · rename_i own
    exact List.count_filter (by simpa using own)
  · rename_i apart
    have absent : l ∉ ofGroup name lines := by simp [ofGroup, apart]
    exact List.count_eq_zero_of_not_mem absent

theorem ofGroup_concat (l : Line) (name : String) (lines : List Line) :
    ofGroup name (lines ++ [l]) = ofGroup name lines ++ if l.group = name then [l] else [] := by
  by_cases own : l.group = name <;> simp [ofGroup, own]

theorem mem_groupNames_concat {l : Line} {lines : List Line} {name : String} :
    name ∈ groupNames (lines ++ [l]) ↔ name ∈ groupNames lines ∨ l.group = name := by
  simp [mem_groupNames, or_and_right, exists_or]

section Writing

variable {t made after : FileTree} {directory : String} {place : Place} {lines : List Line}

theorem approach_filePath {name : String} (plain : PlainName name) (fits : Fits directory name)
    (found : t.find? directory = .ok (place, none)) :
    t.approach (filePath directory name) = .ok (place, name ++ ".s") :=
  FileTree.approach_join (not_slash_fileName plain.noSlash) (by simpa using plain.noNull)
    fits.shortPath found

theorem not_isDots_file (name : String) : FileTree.isDots (name ++ ".s") = false := by
  by_contra dots
  have ends : (name ++ ".s").toList.getLast? = some 's' := by simp
  rcases FileTree.isDots_iff.mp (Bool.not_eq_false _ ▸ dots) with same | same | same <;>
    simp [same] at ends

theorem not_isPermanent_file (place : Place) (name : String) :
    (place ++ [name ++ ".s"]).isPermanent = false := by
  have ends : (name ++ ".s").toList.getLast? = some 's' := by simp
  have apart : name ++ ".s" ≠ ".." := by
    intro same
    simp [same] at ends
  have below : place ++ [name ++ ".s"] ≠ Place.root := by
    intro same
    have last : name ++ ".s" = "/" := by simpa [Place.root] using congrArg List.getLast? same
    simp [last] at ends
  simp [Place.isPermanent, apart, below]

theorem writeGroups_of_approach {groups : List (String × List Line)}
    (reached : ∀ g ∈ groups, t.approach (filePath directory g.1) = .ok (place, g.1 ++ ".s"))
    (short : ∀ g ∈ groups, (g.1 ++ ".s").utf8ByteSize ≤ FileTree.nameLimit)
    (free : ∀ name, place ++ [name] ∉ t.directories) :
    (writeGroups directory groups).runOn t =
      (.ok (groups.map fun g => filePath directory g.1), t.putAll (placed place groups)) := by
  induction groups generalizing t with
  | nil => rfl
  | cons group rest ih =>
    obtain ⟨name, lines⟩ := group
    obtain ⟨here, others⟩ := List.forall_mem_cons.mp reached
    obtain ⟨fits, shorts⟩ := List.forall_mem_cons.mp short
    have empty : t.isDirectory (place ++ [name ++ ".s"]) = false := by
      simp [FileTree.isDirectory, not_isPermanent_file, free]
    have first : (FileWork.write (filePath directory name) (fileText name lines)).runOn t =
        (.ok (), t.put (place ++ [name ++ ".s"]) (fileText name lines)) :=
      FileWork.write_eq_ok.mpr (FileTree.write?_of_approach here (not_isDots_file name) fits empty)
    -- Behind the first file there are no more directories, so paths lead to the same places.
    have later := @ih (t.put (place ++ [name ++ ".s"]) (fileText name lines))
      (fun g mem => FileTree.approach_congr (by simp) (others g mem)) shorts (by simpa using free)
    simp only [writeGroups, FileWork.runOn_bind, first, later, FileWork.runOn_pure]
    rfl

theorem write_of_fits (fresh : FreshDirectory t directory made place)
    (plain : ∀ l ∈ lines, PlainName l.group) (fits : ∀ l ∈ lines, Fits directory l.group) :
    (write directory lines).runOn t =
      (.ok ((groupNames lines).map (filePath directory)),
        made.putAll (placed place (groups lines))) := by
  have each : ∀ g ∈ groups lines, PlainName g.1 ∧ Fits directory g.1 := by
    intro g mem
    obtain ⟨l, listed, same⟩ := exists_line_of_mem_groups mem
    exact ⟨same ▸ plain l listed, same ▸ fits l listed⟩
  have written := writeGroups_of_approach
    (fun g mem => approach_filePath (each g mem).1 (each g mem).2 fresh.found)
    (fun g mem => (each g mem).2.shortName) fresh.noDirectory
  simp only [write, FileWork.runOn_bind, fresh.ensured, written]
  simp [groups, Function.comp_def]

theorem divided_putAll (kept : made.files = t.files) (place : Place) (lines : List Line) :
    Divided place lines t (made.putAll (placed place (groups lines))) where
  groups name mem :=
    FileTree.text?_putAll_of_mem (nodup_fst_placed place lines) (mem_placed mem) made
  others p apart := by
    have untouched : p ∉ (placed place (groups lines)).map Prod.fst := by
      rw [fst_placed, groups, List.map_map]
      simpa [eq_comm] using apart
    rw [FileTree.text?_putAll_of_not_mem untouched, FileTree.text?, FileTree.text?, kept]

theorem fits_of_writeGroups {groups : List (String × List Line)} {paths : List String}
    (plain : ∀ g ∈ groups, '/' ∉ g.1.toList)
    (h : (writeGroups directory groups).runOn t = (.ok paths, after)) :
    ∀ g ∈ groups, Fits directory g.1 := by
  induction groups generalizing t paths with
  | nil => exact fun _ mem => absurd mem List.not_mem_nil
  | cons group rest ih =>
    obtain ⟨here, others⟩ := List.forall_mem_cons.mp plain
    obtain ⟨_, between, first, h⟩ := FileWork.runOn_bind_eq_ok.mp h
    obtain ⟨later, last, more, h⟩ := FileWork.runOn_bind_eq_ok.mp h
    cases h
    obtain ⟨front, name, reached, shortName, _⟩ :=
      FileTree.write?_eq_ok (FileWork.write_eq_ok.mp first)
    have named := (FileTree.walk_of_approach_join (not_slash_fileName here) reached).1
    obtain ⟨_, _, shortPath, _⟩ := FileTree.approach_eq_ok_iff.mp reached
    exact List.forall_mem_cons.mpr ⟨⟨named ▸ shortName, shortPath⟩, ih others more⟩

theorem fits_of_write {paths : List String} (plain : ∀ l ∈ lines, PlainName l.group)
    (h : (write directory lines).runOn t = (.ok paths, after)) :
    ∀ l ∈ lines, Fits directory l.group := by
  obtain ⟨_, made, _, written⟩ := FileWork.runOn_bind_eq_ok.mp h
  have slashFree : ∀ g ∈ groups lines, '/' ∉ g.1.toList := by
    intro g mem
    obtain ⟨l, listed, same⟩ := exists_line_of_mem_groups mem
    exact same ▸ (plain l listed).noSlash
  intro l listed
  have named : l.group ∈ groupNames lines := mem_groupNames.mpr ⟨l, listed, rfl⟩
  have grouped : (l.group, ofGroup l.group lines) ∈ groups lines :=
    List.mem_map.mpr ⟨_, named, rfl⟩
  have fits := fits_of_writeGroups slashFree written _ grouped
  exact fits

/-- One more line changes no file but that of its own group. -/
theorem Divided.text?_eq_of_ne {l : Line} {more : FileTree} {p : Place}
    (first : Divided place lines t after) (second : Divided place (lines ++ [l]) t more)
    (apart : p ≠ place ++ [l.group ++ ".s"]) : more.text? p = after.text? p := by
  by_cases group : ∃ name ∈ groupNames lines, p = place ++ [name ++ ".s"]
  · obtain ⟨name, named, rfl⟩ := group
    have other : l.group ≠ name := by
      intro same
      exact apart (same ▸ rfl)
    rw [second.groups name (mem_groupNames_concat.mpr (.inl named)), first.groups name named,
      ofGroup_concat, if_neg other, List.append_nil]
  · have outside : ∀ name ∈ groupNames lines, p ≠ place ++ [name ++ ".s"] :=
      fun name named same => group ⟨name, named, same⟩
    rw [first.others p outside]
    refine second.others p fun name named => ?_
    rcases mem_groupNames_concat.mp named with named | rfl
    · exact outside name named
    · exact apart

theorem write_divides_lines (fresh : FreshDirectory t directory made place)
    (plain : ∀ l ∈ lines, PlainName l.group) (fits : ∀ l ∈ lines, Fits directory l.group) :
    ∃ after,
      (write directory lines).runOn t =
        (.ok ((groupNames lines).map (filePath directory)), after) ∧
      (groupNames lines).Pairwise (· < ·) ∧
      (∀ name, name ∈ groupNames lines ↔ ∃ l ∈ lines, l.group = name) ∧
      after.directories = made.directories ∧
      Divided place lines t after ∧
      (∀ l name, (ofGroup name lines).count l = if l.group = name then lines.count l else 0) ∧
      (∀ reordered, (∀ name, ofGroup name reordered = ofGroup name lines) →
        (write directory reordered).runOn t = (write directory lines).runOn t) ∧
      ∀ l, PlainName l.group → Fits directory l.group →
        ∃ more,
          (write directory (lines ++ [l])).runOn t =
            (.ok ((groupNames (lines ++ [l])).map (filePath directory)), more) ∧
          (∀ p, p ≠ place ++ [l.group ++ ".s"] → more.text? p = after.text? p) ∧
          after.text? (place ++ [l.group ++ ".s"]) =
            (if l.group ∈ groupNames lines then
              some (header l.group ++
                Text.concat ((ofGroup l.group lines).map Line.text) ++ footer)
            else none) ∧
          more.text? (place ++ [l.group ++ ".s"]) =
            some (header l.group ++ Text.concat ((ofGroup l.group lines).map Line.text) ++
              l.text ++ footer) := by
  have kept : made.files = t.files := by
    have same := FileWork.keepsFiles_ensureDirectory directory t
    rwa [fresh.ensured] at same
  have divided := divided_putAll kept place lines
  refine ⟨_, write_of_fits fresh plain fits, pairwise_groupNames lines, fun _ => mem_groupNames,
    by simp, divided, fun l name => count_ofGroup l name lines, ?_, ?_⟩
  · intro reordered same
    rw [write, write, groups_congr same]
  · intro l plainOne fitsOne
    have plainAll : ∀ other ∈ lines ++ [l], PlainName other.group := by
      simpa [or_imp, forall_and] using And.intro plain plainOne
    have fitsAll : ∀ other ∈ lines ++ [l], Fits directory other.group := by
      simpa [or_imp, forall_and] using And.intro fits fitsOne
    have more := divided_putAll kept place (lines ++ [l])
    refine ⟨_, write_of_fits fresh plainAll fitsAll, fun p => divided.text?_eq_of_ne more, ?_, ?_⟩
    · split
      · rename_i named
        exact divided.groups l.group named
      · rename_i absent
        have outside : ∀ name ∈ groupNames lines,
            place ++ [l.group ++ ".s"] ≠ place ++ [name ++ ".s"] := by
          intro name named same
          have equal : l.group = name := by simpa using same
          exact absent (equal ▸ named)
        have before := fresh.noFile (l.group ++ ".s")
        rw [divided.others _ outside, FileTree.text?, ← kept]
        exact before
    · have own := more.groups l.group (mem_groupNames_concat.mpr (.inr rfl))
      rw [own, ofGroup_concat, if_pos rfl]
      simp [String.append_assoc]

end Writing

theorem freshDirectory_out : FreshDirectory {} "out" ⟨[["out"]], []⟩ ["out"] where
  ensured := rfl
  found := by decide +kernel
  noDirectory := by simp
  noFile _ := rfl

/-- Two names of features that differ in their punctuation share a file. -/
theorem write_divides_lines_of_merged_groups :
    let lines : List Line :=
      [⟨"SSE4.1", "NOP", "90"⟩, ⟨"AVX", "RET", "c3"⟩, ⟨"SSE4-1", "HLT", "f4"⟩]
    ∃ after,
      (write "out" lines).runOn {} = (.ok ((groupNames lines).map (filePath "out")), after) ∧
      after.text? ["out", "sse4_1.s"] = some (header "sse4_1" ++
        "\tNOP                                                // 90\n" ++
        "\tHLT                                                // f4\n" ++ footer) := by
  intro lines
  obtain ⟨after, written, _, members, _, divided, _⟩ := write_divides_lines freshDirectory_out
    (by decide +kernel : ∀ l ∈ lines, PlainName l.group)
    (by decide +kernel : ∀ l ∈ lines, Fits "out" l.group)
  have named : "sse4_1" ∈ groupNames lines :=
    (members _).mpr ⟨_, List.mem_cons_self, by decide +kernel⟩
  have text : header "sse4_1" ++ Text.concat ((ofGroup "sse4_1" lines).map Line.text) ++ footer =
      header "sse4_1" ++ "\tNOP                                                // 90\n" ++
        "\tHLT                                                // f4\n" ++ footer := by
    decide +kernel
  have file : (["out"] ++ ["sse4_1" ++ ".s"] : Place) = ["out", "sse4_1.s"] := by decide +kernel
  have own := divided.groups "sse4_1" named
  rw [file, text] at own
  exact ⟨after, written, own⟩

def lineOfLetters (n : Nat) : Line := ⟨String.ofList (List.replicate n 'a'), "NOP", "90"⟩

theorem lowerFrom_replicate (before : List Char) (n : Nat) :
    Text.Chars.lowerFrom before (List.replicate n 'a') = List.replicate n 'a' := by
  induction n generalizing before with
  | zero => rfl
  | succ n ih =>
    have small : ∀ after, Text.lowerOne before after 'a' = ['a'] := fun _ => rfl
    rw [List.replicate_succ, Text.Chars.lowerFrom, small, ih]
    rfl

theorem group_lineOfLetters (n : Nat) :
    (lineOfLetters n).group = String.ofList (List.replicate n 'a') := by
  have lower : Text.lower (String.ofList (List.replicate n 'a')) =
      String.ofList (List.replicate n 'a') := by
    rw [Text.lower, String.toList_ofList, Text.Chars.lower, lowerFrom_replicate]
  rw [Line.group, lineOfLetters, Cpuid.groupName, lower, String.toList_ofList,
    List.map_replicate]
  rfl

theorem plainName_lineOfLetters (n : Nat) : PlainName (lineOfLetters n).group := by
  rw [group_lineOfLetters]
  exact ⟨by simp [List.mem_replicate], by simp [List.mem_replicate]⟩

theorem utf8ByteSize_replicate (n : Nat) :
    (String.ofList (List.replicate n 'a')).utf8ByteSize = n := by
  induction n with
  | zero => rfl
  | succ n ih =>
    have one : (String.singleton 'a').utf8ByteSize = 1 := rfl
    rw [List.replicate_succ, String.ofList_cons, String.utf8ByteSize_append, ih, one, Nat.add_comm]

theorem not_fits_lineOfLetters {n : Nat} (long : FileTree.nameLimit < n) (directory : String) :
    ¬ Fits directory (lineOfLetters n).group := by
  intro fits
  have short := fits.shortName
  rw [group_lineOfLetters, String.utf8ByteSize_append, utf8ByteSize_replicate] at short
  omega

/-- A name may be plain and the directory fresh, and still no file can have the name. -/
theorem write_fails_of_long_name :
    PlainName (lineOfLetters 300).group ∧ (∃ made place, FreshDirectory {} "out" made place) ∧
      ¬ ∃ paths after, (write "out" [lineOfLetters 300]).runOn {} = (.ok paths, after) := by
  refine ⟨plainName_lineOfLetters 300, ⟨_, _, freshDirectory_out⟩, ?_⟩
  rintro ⟨paths, after, written⟩
  have plain : ∀ l ∈ [lineOfLetters 300], PlainName l.group :=
    List.forall_mem_singleton.mpr (plainName_lineOfLetters 300)
  have fits := fits_of_write plain written (lineOfLetters 300) List.mem_cons_self
  exact not_fits_lineOfLetters (by decide) "out" fits

end Listing

end AsmFixtures
