import AsmFixtures.Text.Pieces

/-! Cut and joined texts, with a separator and without one. Where no piece holds the
separator, cutting finds the pieces that were joined. What begins with the separator is found,
and removed, only where the separator stands. -/

namespace AsmFixtures.Text

namespace Chars

variable {separator : Char}

theorem split_append (front back : List Char) :
    split separator (front ++ separator :: back) =
      split separator front ++ split separator back := by
  induction front with
  | nil => rw [List.nil_append, split_cons, if_pos rfl, split_nil, List.singleton_append]
  | cons c rest ih =>
    rw [List.cons_append, split_cons, split_cons, ih]
    split
    · rfl
    · obtain ⟨piece, pieces, cut⟩ := List.exists_cons_of_ne_nil (split_ne_nil separator rest)
      rw [cut]
      rfl

theorem split_of_not_mem {s : List Char} (h : separator ∉ s) : split separator s = [s] := by
  induction s with
  | nil => rfl
  | cons c rest ih =>
    obtain ⟨apart, later⟩ := not_or.mp (mt List.mem_cons.mpr h)
    rw [split_cons, if_neg (Ne.symm apart), ih later]
    rfl

theorem sublist_of_mem_split {s piece : List Char} (mem : piece ∈ split separator s) :
    piece.Sublist s := by
  induction s generalizing piece with
  | nil => simp_all
  | cons c rest ih =>
    rw [split_cons] at mem
    split at mem
    · rcases List.mem_cons.mp mem with rfl | later
      · exact List.nil_sublist _
      · exact (ih later).cons c
    · obtain ⟨first, others, cut⟩ := List.exists_cons_of_ne_nil (split_ne_nil separator rest)
      rw [cut] at mem ih
      rcases List.mem_cons.mp mem with rfl | later
      · exact (ih List.mem_cons_self).cons_cons c
      · exact (ih (List.mem_cons_of_mem _ later)).cons c

theorem append_separator_inj {front other back rest : List Char} (plain : separator ∉ front)
    (plain' : separator ∉ other) (same : front ++ separator :: back = other ++ separator :: rest) :
    front = other ∧ back = rest := by
  have cut := congrArg (split separator) same
  rw [split_append, split_append, split_of_not_mem plain, split_of_not_mem plain'] at cut
  obtain rfl := (List.cons.inj cut).1
  simpa using same

theorem exists_split_append {separator : Char} (s : List Char) {back : List Char}
    (plain : separator ∉ back) :
    ∃ front last, split separator s = front ++ [last] ∧
      split separator (s ++ back) = front ++ [last ++ back] := by
  induction s with
  | nil => exact ⟨[], [], rfl, split_of_not_mem plain⟩
  | cons c rest ih =>
    obtain ⟨front, last, short, long⟩ := ih
    rw [List.cons_append, split_cons, split_cons, short, long]
    by_cases same : c = separator
    · exact ⟨[] :: front, last, by simp [same], by simp [same]⟩
    · cases front with
      | nil => exact ⟨[], c :: last, by simp [same], by simp [same]⟩
      | cons piece front => exact ⟨(c :: piece) :: front, last, by simp [same], by simp [same]⟩

theorem join_cons_cons (separator piece next : List Char) (others : List (List Char)) :
    join separator (piece :: next :: others) =
      piece ++ separator ++ join separator (next :: others) := rfl

theorem split_join {blank piece : List Char} {rest : List (List Char)} (apart : separator ∉ blank)
    (plain : ∀ p ∈ piece :: rest, separator ∉ p) :
    split separator (join (separator :: blank) (piece :: rest)) =
      piece :: rest.map (blank ++ ·) := by
  obtain ⟨first, later⟩ := List.forall_mem_cons.mp plain
  induction rest generalizing piece with
  | nil => exact split_of_not_mem first
  | cons next others ih =>
    obtain ⟨second, behind⟩ := List.forall_mem_cons.mp later
    have shifted : blank ++ join (separator :: blank) (next :: others) =
        join (separator :: blank) ((blank ++ next) :: others) := by
      cases others with
      | nil => rfl
      | cons third others => simp only [join_cons_cons, List.append_assoc]
    have shiftedPlain : separator ∉ blank ++ next := by simp [apart, second]
    rw [join_cons_cons, List.append_assoc, List.cons_append, split_append,
      split_of_not_mem first, shifted,
      ih (List.forall_mem_cons.mpr ⟨shiftedPlain, behind⟩) shiftedPlain behind]
    rfl

theorem join_inj_of_ne_nil {blank : List Char} {pieces others : List (List Char)}
    (apart : separator ∉ blank) (some : pieces ≠ []) (some' : others ≠ [])
    (plain : ∀ p ∈ pieces, separator ∉ p) (plain' : ∀ p ∈ others, separator ∉ p)
    (same : join (separator :: blank) pieces = join (separator :: blank) others) :
    pieces = others := by
  obtain ⟨piece, rest, rfl⟩ := List.exists_cons_of_ne_nil some
  obtain ⟨piece', rest', rfl⟩ := List.exists_cons_of_ne_nil some'
  have cut := congrArg (split separator) same
  rw [split_join apart plain, split_join apart plain'] at cut
  obtain ⟨first, shifted⟩ := List.cons.inj cut
  rw [first, (List.map_inj_right fun _ _ => List.append_cancel_left).mp shifted]

theorem join_injective {blank : List Char} {pieces others : List (List Char)}
    (apart : separator ∉ blank) (count : pieces.length = others.length)
    (plain : ∀ p ∈ pieces, separator ∉ p) (plain' : ∀ p ∈ others, separator ∉ p)
    (same : join (separator :: blank) pieces = join (separator :: blank) others) :
    pieces = others := by
  by_cases none : pieces = []
  · subst none
    exact (List.eq_nil_of_length_eq_zero count.symm).symm
  · have some : others ≠ [] := by
      rintro rfl
      exact none (List.eq_nil_of_length_eq_zero count)
    exact join_inj_of_ne_nil apart none some plain plain' same

theorem mem_of_mem_join {separator : List Char} {pieces : List (List Char)} {c : Char}
    (h : c ∈ join separator pieces) : c ∈ separator ∨ ∃ piece ∈ pieces, c ∈ piece := by
  induction pieces with
  | nil => simp [join] at h
  | cons piece rest ih =>
    cases rest with
    | nil => exact .inr ⟨piece, List.mem_cons_self, h⟩
    | cons second others =>
      have parts : c ∈ piece ∨ c ∈ separator ∨ c ∈ join separator (second :: others) := by
        simpa [join, or_assoc] using h
      grind

theorem cut?_cons (needle : List Char) (c : Char) (s : List Char) :
    cut? needle (c :: s) =
      if needle <+: c :: s then some ([], (c :: s).drop needle.length)
      else (cut? needle s).map fun (before, behind) => (c :: before, behind) := by
  rw [cut?]
  by_cases opening : needle <+: c :: s <;> simp [opening]

/-- The first occurrence is not inside a text without the first character of what is sought. -/
theorem cut?_append {front : List Char} (apart : separator ∉ front) (name back : List Char) :
    cut? (separator :: name) (front ++ (separator :: name ++ back)) = some (front, back) := by
  induction front with
  | nil => simp [cut?_cons]
  | cons c rest ih =>
    obtain ⟨different, later⟩ := not_or.mp (mt List.mem_cons.mpr apart)
    have opening : ¬ separator :: name <+: c :: (rest ++ (separator :: name ++ back)) := by
      simp [List.cons_prefix_cons, different]
    rw [List.cons_append, cut?_cons, if_neg opening, ih later, Option.map_some]

theorem removeFirst_cons (needle : List Char) (c : Char) (s : List Char) :
    removeFirst needle (c :: s) =
      if needle <+: c :: s then (c :: s).drop needle.length else c :: removeFirst needle s := by
  rw [removeFirst, cut?_cons]
  by_cases opening : needle <+: c :: s
  · rw [if_pos opening, if_pos opening]
    rfl
  · rw [if_neg opening, if_neg opening, removeFirst]
    cases cut? needle s <;> rfl

theorem removeFirst_append {name front : List Char} (apart : separator ∉ front) (s : List Char) :
    removeFirst (separator :: name) (front ++ s) =
      front ++ removeFirst (separator :: name) s := by
  induction front with
  | nil => rfl
  | cons c rest ih =>
    obtain ⟨different, later⟩ := not_or.mp (mt List.mem_cons.mpr apart)
    have opening : ¬ separator :: name <+: c :: (rest ++ s) := by
      simp [List.cons_prefix_cons, different]
    rw [List.cons_append, removeFirst_cons, if_neg opening, ih later, List.cons_append]

theorem prefix_append_separator {name front back : List Char} (apart : separator ∉ name) :
    name <+: front ++ separator :: back ↔ name <+: front := by
  induction name generalizing front with
  | nil => simp
  | cons c rest ih =>
    obtain ⟨different, later⟩ := not_or.mp (mt List.mem_cons.mpr apart)
    cases front with
    | nil => simp [List.cons_prefix_cons, Ne.symm different]
    | cons d front => rw [List.cons_append, List.cons_prefix_cons, List.cons_prefix_cons, ih later]

end Chars

@[simp] theorem concat_nil : concat [] = "" := rfl

@[simp] theorem concat_cons (piece : String) (rest : List String) :
    concat (piece :: rest) = piece ++ concat rest := by
  simp [concat]

@[simp] theorem concat_append (first second : List String) :
    concat (first ++ second) = concat first ++ concat second := by
  simp [concat]

end AsmFixtures.Text
