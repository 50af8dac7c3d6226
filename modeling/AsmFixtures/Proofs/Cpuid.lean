import AsmFixtures.Cpuid
import AsmFixtures.Proofs.Text.Pieces
import Mathlib

/-! Sets of features without the two that do not tell fixtures apart. Each is removed as text, with
the plus sign in front of it. The text may be the beginning of a longer name, whose end then goes to
the name in front. A feature is removed, and no other name changes, just when the first name that
begins like the feature is the feature itself. -/

namespace AsmFixtures

namespace Cpuid

open Text.Chars

/-- The first name that begins like a feature loses that beginning, and what is left of it is added
to the name in front of it. -/
def absorb (feature : List Char) : List (List Char) → List (List Char)
  | first :: next :: rest =>
    if feature <+: next then (first ++ next.drop feature.length) :: rest
    else first :: absorb feature (next :: rest)
  | names => names

variable {feature other first next : List Char} {names rest : List (List Char)}

theorem join_cons {name : List Char} (more : names ≠ []) :
    join ['+'] (name :: names) = name ++ '+' :: join ['+'] names := by
  obtain ⟨next, rest, rfl⟩ := List.exists_cons_of_ne_nil more
  rw [join_cons_cons, List.append_assoc, List.singleton_append]

theorem join_append_cons (front name : List Char) (names : List (List Char)) :
    join ['+'] ((front ++ name) :: names) =
      front ++ join ['+'] (name :: names) := by
  cases names with
  | nil => rfl
  | cons next rest => simp only [join_cons_cons, List.append_assoc]

theorem prefix_join (apart : '+' ∉ feature) (name : List Char) (names : List (List Char)) :
    feature <+: join ['+'] (name :: names) ↔ feature <+: name := by
  cases names with
  | nil => rfl
  | cons next rest =>
    rw [join_cons (List.cons_ne_nil next rest), prefix_append_separator apart]

theorem absorb_cons_cases (feature first : List Char) (rest : List (List Char)) :
    (∃ others, absorb feature (first :: rest) = first :: others) ∨
      ∃ tail others, tail ≠ [] ∧ rest = (feature ++ tail) :: others ∧
        absorb feature (first :: rest) = (first ++ tail) :: others := by
  cases rest with
  | nil => exact .inl ⟨[], rfl⟩
  | cons next rest =>
    by_cases opening : feature <+: next
    · obtain ⟨tail, rfl⟩ := opening
      have absorbed : absorb feature (first :: (feature ++ tail) :: rest) =
          (first ++ tail) :: rest := by
        rw [absorb, if_pos (List.prefix_append feature tail), List.drop_left]
      by_cases whole : tail = []
      · exact .inl ⟨rest, by rw [absorbed, whole, List.append_nil]⟩
      · exact .inr ⟨tail, rest, whole, rfl, absorbed⟩
    · exact .inl ⟨absorb feature (next :: rest), by rw [absorb, if_neg opening]⟩

theorem absorb_ne_nil (feature : List Char) (some : names ≠ []) : absorb feature names ≠ [] := by
  obtain ⟨first, rest, rfl⟩ := List.exists_cons_of_ne_nil some
  rcases absorb_cons_cases feature first rest with ⟨_, same⟩ | ⟨_, _, _, _, same⟩ <;>
    simp [same]

theorem removeFirst_join (apart : '+' ∉ feature) (plain : ∀ name ∈ names, '+' ∉ name) :
    removeFirst ('+' :: feature) (join ['+'] names) =
      join ['+'] (absorb feature names) := by
  induction names with
  | nil => rfl
  | cons first names ih =>
    obtain ⟨here, later⟩ := List.forall_mem_cons.mp plain
    cases names with
    | nil =>
      have nothing : removeFirst ('+' :: feature) (first ++ []) = first ++ [] :=
        removeFirst_append here []
      rwa [List.append_nil] at nothing
    | cons next rest =>
      have starts : '+' :: feature <+: '+' :: join ['+'] (next :: rest) ↔
          feature <+: next := by
        rw [List.cons_prefix_cons, prefix_join apart]
        exact and_iff_right rfl
      rw [join_cons (List.cons_ne_nil next rest), removeFirst_append here,
        removeFirst_cons, absorb]
      by_cases opening : feature <+: next
      · rw [if_pos (starts.mpr opening), if_pos opening]
        obtain ⟨tail, rfl⟩ := opening
        rw [join_append_cons, join_append_cons, List.length_cons, List.drop_succ_cons,
          List.drop_left, List.drop_left]
      · rw [if_neg (mt starts.mp opening), if_neg opening, ih later,
          join_cons (absorb_ne_nil feature (List.cons_ne_nil next rest))]

def FirstIsWhole (feature : List Char) (names : List (List Char)) : Prop :=
  ∀ name ∈ names.find? (feature.isPrefixOf ·), name = feature

theorem firstIsWhole_nil (feature : List Char) : FirstIsWhole feature [] := nofun

theorem firstIsWhole_cons_of_begins (opening : feature <+: first) :
    FirstIsWhole feature (first :: rest) ↔ first = feature := by
  simp [FirstIsWhole, opening]

theorem firstIsWhole_cons_of_not_begins (opening : ¬ feature <+: first) :
    FirstIsWhole feature (first :: rest) ↔ FirstIsWhole feature rest := by
  have passed : feature.isPrefixOf first = false :=
    Bool.eq_false_iff.mpr (mt List.isPrefixOf_iff_prefix.mp opening)
  simp only [FirstIsWhole, List.find?_cons, passed]

theorem absorb_eq_cons_of_begins (opening : feature <+: next) :
    absorb feature (first :: next :: rest) = first :: names ↔ next = feature ∧ rest = names := by
  rw [absorb, if_pos opening, List.cons.injEq, List.append_right_eq_self, List.drop_eq_nil_iff]
  refine and_congr_left fun _ => ⟨fun short => ?_, fun same => same ▸ le_rfl⟩
  exact (opening.eq_of_length_le short).symm

theorem absorb_eq_cons_of_not_begins (closed : ¬ feature <+: next) :
    absorb feature (first :: next :: rest) = first :: names ↔
      absorb feature (next :: rest) = names := by
  rw [absorb, if_neg closed, List.cons.injEq]
  exact and_iff_right rfl

theorem absorb_eq_filter_iff (nodup : rest.Nodup) :
    absorb feature (first :: rest) = first :: rest.filter (· ≠ feature) ↔
      FirstIsWhole feature rest := by
  induction rest generalizing first with
  | nil => exact iff_of_true rfl (firstIsWhole_nil feature)
  | cons next rest ih =>
    obtain ⟨fresh, nodup⟩ := List.nodup_cons.mp nodup
    by_cases opening : feature <+: next
    · rw [absorb_eq_cons_of_begins opening, firstIsWhole_cons_of_begins opening]
      refine and_iff_left_of_imp fun same => ?_
      subst same
      have kept : ∀ name ∈ rest, name ≠ next := fun name mem same => fresh (same ▸ mem)
      rw [List.filter_cons_of_neg (by simp), List.filter_eq_self.mpr (by simpa using kept)]
    · have different : next ≠ feature := by
        rintro rfl
        exact opening (List.prefix_refl next)
      rw [absorb_eq_cons_of_not_begins opening, firstIsWhole_cons_of_not_begins opening,
        ← ih nodup, List.filter_cons_of_pos (by simpa using different)]

theorem prefix_of_absorb_eq_cons (same : absorb feature (first :: rest) = next :: names) :
    first <+: next := by
  rcases absorb_cons_cases feature first rest with ⟨_, stays⟩ | ⟨tail, _, _, _, grows⟩
  · rw [(List.cons.inj (stays.symm.trans same)).1]
  · rw [← (List.cons.inj (grows.symm.trans same)).1]
    exact List.prefix_append first tail

theorem absorb_grown_ne {tail : List Char} (more : tail ≠ []) (fresh : next ∉ rest) :
    absorb feature (first :: (next ++ tail) :: rest) ≠ first :: next :: names := by
  intro same
  by_cases opening : feature <+: next ++ tail
  · obtain ⟨_, rfl⟩ := (absorb_eq_cons_of_begins opening).mp same
    exact fresh List.mem_cons_self
  · have grown := prefix_of_absorb_eq_cons ((absorb_eq_cons_of_not_begins opening).mp same)
    exact more (List.append_right_eq_self.mp (grown.eq_of_length_le (by simp)))

def without (feature other : List Char) (names : List (List Char)) : List (List Char) :=
  names.filter fun name => name ≠ feature ∧ name ≠ other

theorem without_cons_of_ne (different : next ≠ feature) (different' : next ≠ other) :
    without feature other (next :: rest) = next :: without feature other rest :=
  List.filter_cons_of_pos (by simp [different, different'])

theorem without_cons_self (fresh : feature ∉ rest) :
    without feature other (feature :: rest) = rest.filter (· ≠ other) := by
  rw [without, List.filter_cons_of_neg (by simp)]
  exact List.filter_congr fun name mem => by simp [ne_of_mem_of_not_mem mem fresh]

theorem without_comm (feature other : List Char) (names : List (List Char)) :
    without feature other names = without other feature names :=
  List.filter_congr fun name _ => by simp [and_comm]

theorem absorb_absorb_iff_of_begins (apart : ¬ other <+: feature) (nodup : (next :: rest).Nodup)
    (opening : feature <+: next) :
    absorb other (absorb feature (first :: next :: rest)) =
        first :: without feature other (next :: rest) ↔
      next = feature ∧ FirstIsWhole other (next :: rest) := by
  obtain ⟨fresh, nodup⟩ := List.nodup_cons.mp nodup
  rw [absorb, if_pos opening]
  by_cases whole : next = feature
  · subst whole
    rw [List.drop_length, List.append_nil, without_cons_self fresh, absorb_eq_filter_iff nodup,
      firstIsWhole_cons_of_not_begins apart]
    exact (and_iff_right rfl).symm
  · refine iff_of_false (fun same => ?_) (fun holds => whole holds.1)
    have grown := (prefix_of_absorb_eq_cons same).eq_of_length_le (by simp)
    have dropped := List.drop_eq_nil_iff.mp (List.append_right_eq_self.mp grown)
    exact whole (opening.eq_of_length_le dropped).symm

theorem absorb_absorb_iff_of_second (nodup : (other :: rest).Nodup) (closed : ¬ feature <+: other) :
    absorb other (absorb feature (first :: other :: rest)) =
        first :: without feature other (other :: rest) ↔ FirstIsWhole feature rest := by
  obtain ⟨fresh, nodup⟩ := List.nodup_cons.mp nodup
  obtain ⟨grown, others, same⟩ :=
    List.exists_cons_of_ne_nil (absorb_ne_nil feature (List.cons_ne_nil other rest))
  rw [absorb, if_neg closed, without_comm, without_cons_self fresh, same,
    absorb_eq_cons_of_begins (prefix_of_absorb_eq_cons same), ← List.cons.injEq, ← same,
    absorb_eq_filter_iff nodup]

/-- Two features are removed one after the other. The removal of the first can complete the
second, but only with a name that is then missing. -/
theorem absorb_absorb_eq_iff (apart : ¬ other <+: feature) (nodup : rest.Nodup) :
    absorb other (absorb feature (first :: rest)) = first :: without feature other rest ↔
      FirstIsWhole feature rest ∧ FirstIsWhole other rest := by
  induction rest generalizing first with
  | nil => exact iff_of_true rfl ⟨firstIsWhole_nil feature, firstIsWhole_nil other⟩
  | cons next rest ih =>
    by_cases opening : feature <+: next
    · rw [absorb_absorb_iff_of_begins apart nodup opening, firstIsWhole_cons_of_begins opening]
    rw [firstIsWhole_cons_of_not_begins opening]
    by_cases whole : next = other
    · subst whole
      rw [absorb_absorb_iff_of_second nodup opening,
        firstIsWhole_cons_of_begins (List.prefix_refl next)]
      exact (and_iff_left rfl).symm
    obtain ⟨fresh, nodup⟩ := List.nodup_cons.mp nodup
    have different : next ≠ feature := fun same => opening (same ▸ List.prefix_refl next)
    rw [absorb, if_neg opening, without_cons_of_ne different whole]
    rcases absorb_cons_cases feature next rest with
      ⟨others, stays⟩ | ⟨tail, others, more, rfl, grows⟩
    · by_cases begins : other <+: next
      · rw [stays, absorb_eq_cons_of_begins begins, firstIsWhole_cons_of_begins begins]
        exact iff_of_false (fun h => whole h.1) (fun h => whole h.2)
      · rw [stays, absorb_eq_cons_of_not_begins begins, firstIsWhole_cons_of_not_begins begins,
          ← stays, ih nodup]
    · have missing : next ∉ others := fun mem => fresh (List.mem_cons_of_mem _ mem)
      rw [grows, firstIsWhole_cons_of_begins (List.prefix_append feature tail),
        List.append_right_eq_self]
      exact iff_of_false (absorb_grown_ne more missing) (fun h => more h.1)

theorem plain_absorb (feature : List Char) {names : List (List Char)}
    (plain : ∀ name ∈ names, '+' ∉ name) : ∀ name ∈ absorb feature names, '+' ∉ name := by
  fun_induction absorb feature names with
  | case1 first next rest opening =>
    simp only [List.forall_mem_cons, List.mem_append, not_or] at plain ⊢
    exact ⟨⟨plain.1, fun mem => plain.2.1 (List.mem_of_mem_drop mem)⟩, plain.2.2⟩
  | case2 first next rest closed ih =>
    obtain ⟨here, later⟩ := List.forall_mem_cons.mp plain
    exact List.forall_mem_cons.mpr ⟨here, ih later⟩
  | case3 names short => exact plain

theorem toList_normalize {names : List String} (plain : ∀ name ∈ names, '+' ∉ name.toList) :
    (normalize (Text.join "+" names)).toList =
      join ['+'] (absorb "AVX512F".toList
        (absorb "AVX512VL".toList (names.map String.toList))) := by
  have listed : ∀ name ∈ names.map String.toList, '+' ∉ name := by simpa using plain
  have plus : "+".toList = ['+'] := rfl
  have vectorLength : "+AVX512VL".toList = '+' :: "AVX512VL".toList := rfl
  have foundation : "+AVX512F".toList = '+' :: "AVX512F".toList := rfl
  simp only [normalize, Text.removeFirst, Text.join, String.toList_ofList, plus,
    vectorLength, foundation]
  rw [removeFirst_join (by decide) listed, removeFirst_join (by decide) (plain_absorb _ listed)]

def LeadsItsName (feature : String) (names : List String) : Prop :=
  ∀ name ∈ names.find? (Text.startsWith · feature), name = feature

instance (feature : String) (names : List String) : Decidable (LeadsItsName feature names) :=
  inferInstanceAs (Decidable (∀ name ∈ names.find? (Text.startsWith · feature), name = feature))

theorem firstIsWhole_map_toList (feature : String) (names : List String) :
    FirstIsWhole feature.toList (names.map String.toList) ↔ LeadsItsName feature names := by
  simp only [FirstIsWhole, LeadsItsName, List.find?_map, Option.mem_map, forall_exists_index,
    and_imp]
  constructor
  · exact fun whole name found => String.toList_injective (whole _ name found rfl)
  · rintro leads _ name found rfl
    exact congrArg String.toList (leads name found)

theorem map_toList_filter (names : List String) :
    (names.filter fun name => name ≠ "AVX512VL" ∧ name ≠ "AVX512F").map String.toList =
      without "AVX512VL".toList "AVX512F".toList (names.map String.toList) := by
  rw [without, List.filter_map]
  refine congrArg (List.map String.toList) (List.filter_congr fun name _ => ?_)
  simp only [Function.comp_apply, ne_eq, String.toList_inj]

theorem not_mem_of_mem_without (feature other : List Char) (plain : ∀ name ∈ names, '+' ∉ name) :
    ∀ name ∈ without feature other names, '+' ∉ name :=
  fun name mem => plain name (List.mem_of_mem_filter mem)

/-- The text of a set of different features loses the vector length and the foundation, where they
are not the first, and nothing else, just when no longer name stands in front of either that begins
like it. -/
theorem normalize_eq_join_iff {first : String} {rest : List String}
    (nodup : (first :: rest).Nodup) (plain : ∀ name ∈ first :: rest, '+' ∉ name.toList) :
    normalize (Text.join "+" (first :: rest)) =
        Text.join "+" (first :: rest.filter fun name => name ≠ "AVX512VL" ∧ name ≠ "AVX512F") ↔
      LeadsItsName "AVX512VL" rest ∧ LeadsItsName "AVX512F" rest := by
  have listed : (rest.map String.toList).Nodup :=
    (List.nodup_cons.mp nodup).2.map fun _ _ => String.toList_injective
  have names : ∀ name ∈ first.toList :: rest.map String.toList, '+' ∉ name := by
    simpa using plain
  obtain ⟨here, later⟩ := List.forall_mem_cons.mp names
  have apart : ¬ "AVX512F".toList <+: "AVX512VL".toList := by decide
  have shown : (Text.join "+" (first :: rest.filter fun name =>
      name ≠ "AVX512VL" ∧ name ≠ "AVX512F")).toList = join ['+']
        (first.toList :: without "AVX512VL".toList "AVX512F".toList (rest.map String.toList)) := by
    rw [Text.join, String.toList_ofList, List.map_cons, map_toList_filter]
    rfl
  rw [← String.toList_inj, toList_normalize plain, shown, ← firstIsWhole_map_toList,
    ← firstIsWhole_map_toList, ← absorb_absorb_eq_iff apart listed, List.map_cons]
  refine ⟨fun same => ?_, fun same => congrArg (join ['+']) same⟩
  refine join_inj_of_ne_nil List.not_mem_nil
    (absorb_ne_nil _ (absorb_ne_nil _ (List.cons_ne_nil _ _))) (List.cons_ne_nil _ _)
    (plain_absorb _ (plain_absorb _ names)) ?_ same
  exact List.forall_mem_cons.mpr ⟨here, not_mem_of_mem_without _ _ later⟩

theorem normalize_eq_join_of_longer_name_behind :
    LeadsItsName "AVX512VL" ["AVX512F", "AVX512FP16", "AVX512VL"] ∧
      LeadsItsName "AVX512F" ["AVX512F", "AVX512FP16", "AVX512VL"] ∧
      normalize (Text.join "+" ["AVX512DQ", "AVX512F", "AVX512FP16", "AVX512VL"]) =
        Text.join "+" ["AVX512DQ", "AVX512FP16"] := by
  have vectorLength : LeadsItsName "AVX512VL" ["AVX512F", "AVX512FP16", "AVX512VL"] := by decide
  have foundation : LeadsItsName "AVX512F" ["AVX512F", "AVX512FP16", "AVX512VL"] := by decide
  exact ⟨vectorLength, foundation,
    (normalize_eq_join_iff (by decide) (by decide)).mpr ⟨vectorLength, foundation⟩⟩

/-- A name that only begins like the foundation loses that beginning. -/
theorem normalize_cuts_longer_name :
    normalize (Text.join "+" ["AVX512BW", "AVX512FP16"]) = "AVX512BWP16" ∧
      normalize (Text.join "+" ["AVX512BW", "AVX512FP16"]) ≠
        Text.join "+" ["AVX512BW", "AVX512FP16"] := by
  decide +kernel

end Cpuid

end AsmFixtures
