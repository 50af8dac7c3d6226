import AsmFixtures.Product
import AsmFixtures.Proofs.Basic
import Mathlib.Data.List.Forall2
import Mathlib.Data.List.Nodup

/-! The odometer against the choices. Its readings, started with every wheel at zero, are
exactly the choices of positions in lexicographic order, so the entries they point at are
the choices of entries. One wheel is put in front of a counter at a time: the counter runs
through once for each digit of the new wheel, and starts over in between. -/

namespace AsmFixtures

theorem choices_eq_nil {α : Type} {domains : List (List α)} (h : [] ∈ domains) :
    choices domains = [] := by
  induction domains with
  | nil => simp at h
  | cons domain rest ih =>
    rcases List.mem_cons.mp h with rfl | h
    · rfl
    · simp [choices, ih h]

theorem mem_choices {α : Type} {domains : List (List α)} {choice : List α} :
    choice ∈ choices domains ↔ List.Forall₂ (· ∈ ·) choice domains := by
  induction domains generalizing choice with
  | nil => simp [choices]
  | cons domain rest ih =>
    constructor
    · intro h
      simp only [choices, List.mem_flatMap, List.mem_map] at h
      obtain ⟨a, ha, tail, ht, rfl⟩ := h
      exact .cons ha (ih.mp ht)
    · rintro (_ | ⟨ha, ht⟩)
      simp only [choices, List.mem_flatMap, List.mem_map]
      exact ⟨_, ha, _, ih.mpr ht, rfl⟩

theorem exists_domain_of_mem {α : Type} {domains : List (List α)} {choice : List α}
    (chosen : choice ∈ choices domains) {a : α} (mem : a ∈ choice) :
    ∃ domain ∈ domains, a ∈ domain :=
  exists_of_forall₂ (mem_choices.mp chosen).flip mem

theorem choices_ne_nil {α : Type} {domains : List (List α)} (h : [] ∉ domains) :
    choices domains ≠ [] := by
  induction domains with
  | nil => simp [choices]
  | cons domain rest ih =>
    obtain ⟨first, later⟩ := not_or.mp (mt List.mem_cons.mpr h)
    obtain ⟨a, more, rfl⟩ := List.exists_cons_of_ne_nil (Ne.symm first)
    simp [choices, ih later]

theorem nodup_choices {α : Type} {domains : List (List α)} (nonempty : [] ∉ domains) :
    (choices domains).Nodup ↔ ∀ domain ∈ domains, domain.Nodup := by
  induction domains with
  | nil => simp [choices]
  | cons domain rest ih =>
    obtain ⟨first, later⟩ := not_or.mp (mt List.mem_cons.mpr nonempty)
    obtain ⟨a, inside⟩ := List.exists_mem_of_ne_nil _ (Ne.symm first)
    obtain ⟨tail, choice⟩ := List.exists_mem_of_ne_nil _ (choices_ne_nil later)
    have fronted : ∀ a : α, ((choices rest).map (a :: ·)).Nodup ↔ (choices rest).Nodup :=
      fun a => List.nodup_map_iff (List.cons_injective)
    have apart : ∀ a b : α, List.Disjoint ((choices rest).map (a :: ·))
        ((choices rest).map (b :: ·)) ↔ a ≠ b := by
      intro a b
      constructor
      · rintro disjoint rfl
        exact disjoint (List.mem_map_of_mem choice) (List.mem_map_of_mem choice)
      · intro different x here there
        obtain ⟨y, _, rfl⟩ := List.mem_map.mp here
        obtain ⟨z, _, same⟩ := List.mem_map.mp there
        exact different (List.cons.inj same).1.symm
    rw [choices, List.nodup_flatMap, List.forall_mem_cons, ← ih later]
    have pairs : domain.Pairwise (Function.onFun List.Disjoint fun a =>
        (choices rest).map (a :: ·)) ↔ domain.Nodup := List.Pairwise.iff fun {a b} => apart a b
    simp only [fronted, pairs]
    exact ⟨fun h => ⟨h.2, h.1 a inside⟩, fun h => ⟨fun _ _ => h.2, h.1⟩⟩

namespace Odometer

inductive Counting (sizes : List Nat) : List (List Nat) → Prop
  | last {x : List Nat} (done : step sizes x = none) : Counting sizes [x]
  | next {x y : List Nat} {rest : List (List Nat)} (move : step sizes x = some y)
      (tail : Counting sizes (y :: rest)) : Counting sizes (x :: y :: rest)

theorem readings_of_counting {sizes x : List Nat} {rest : List (List Nat)}
    (h : Counting sizes (x :: rest)) : readings sizes (rest.length + 1) x = x :: rest := by
  induction rest generalizing x with
  | nil =>
    cases h with
    | last done => simp [readings, done]
  | cons y rest ih =>
    cases h with
    | next move tail =>
      rw [List.length_cons, readings, move]
      exact congrArg (x :: ·) (ih tail)

def positions (sizes : List Nat) : List (List Nat) := choices (sizes.map List.range)

theorem length_positions (sizes : List Nat) :
    (positions sizes).length = sizes.foldr (· * ·) 1 := by
  rw [positions, length_choices, List.map_map]
  have sizes_eq : sizes.map (List.length ∘ List.range) = sizes := by simp [Function.comp_def]
  rw [sizes_eq]

theorem positions_cons (size : Nat) (sizes : List Nat) :
    positions (size :: sizes) =
      (List.range size).flatMap fun d => (positions sizes).map (d :: ·) := rfl

theorem positions_head {sizes : List Nat} (positive : ∀ n ∈ sizes, 0 < n) :
    ∃ rest, positions sizes = (sizes.map fun _ => 0) :: rest := by
  induction sizes with
  | nil => exact ⟨[], rfl⟩
  | cons size sizes ih =>
    obtain ⟨rest, hrest⟩ := ih fun n hn => positive n (List.mem_cons_of_mem _ hn)
    obtain ⟨m, rfl⟩ := Nat.exists_eq_succ_of_ne_zero
      (Nat.ne_of_gt (positive size List.mem_cons_self))
    rw [positions_cons, hrest, List.range_succ_eq_map]
    exact ⟨_, rfl⟩

/-- While a wheel stands at one digit, the wheels behind it run through once. -/
theorem counting_block {size d : Nat} {sizes : List Nat} {block : List (List Nat)}
    (h : Counting sizes block) (lengths : ∀ x ∈ block, x.length = sizes.length) :
    (d + 1 = size → Counting (size :: sizes) (block.map (d :: ·))) ∧
    ∀ rest, d + 1 < size →
      Counting (size :: sizes) (((d + 1) :: sizes.map fun _ => 0) :: rest) →
      Counting (size :: sizes)
        (block.map (d :: ·) ++ ((d + 1) :: sizes.map fun _ => 0) :: rest) := by
  induction h with
  | last done =>
    rename_i x
    have zeros : (x.map fun _ => 0) = sizes.map fun _ => 0 := by
      simp [List.map_const', lengths x List.mem_cons_self]
    refine ⟨fun full => .last ?_, fun rest more tail => .next ?_ tail⟩
    · simp [step, done, full]
    · simp [step, done, more, zeros]
  | next move tail ih =>
    obtain ⟨final, onward⟩ := ih fun x hx => lengths x (List.mem_cons_of_mem _ hx)
    exact ⟨fun full => .next (by simp [step, move]) (final full),
      fun rest more after => .next (by simp [step, move]) (onward rest more after)⟩

theorem counting_positions {sizes : List Nat} (positive : ∀ n ∈ sizes, 0 < n) :
    Counting sizes (positions sizes) := by
  induction sizes with
  | nil => exact .last rfl
  | cons size sizes ih =>
    have behind : ∀ n ∈ sizes, 0 < n := fun n hn => positive n (List.mem_cons_of_mem _ hn)
    have lengths : ∀ x ∈ positions sizes, x.length = sizes.length := by
      intro x hx
      simpa using (mem_choices.mp hx).length_eq
    obtain ⟨others, head⟩ := positions_head behind
    -- The digits that are still to come form a range that ends with the largest digit.
    have runs : ∀ k d, d + (k + 1) = size → Counting (size :: sizes)
        ((List.range' d (k + 1)).flatMap fun d => (positions sizes).map (d :: ·)) := by
      intro k
      induction k with
      | zero =>
        intro d full
        simpa using (counting_block (ih behind) lengths).1 full
      | succ k ihk =>
        intro d full
        have tail := ihk (d + 1) (by omega)
        have starts : ∃ rest, (List.range' (d + 1) (k + 1)).flatMap
            (fun d => (positions sizes).map (d :: ·)) =
              ((d + 1) :: sizes.map fun _ => 0) :: rest := by
          rw [List.range'_succ, List.flatMap_cons, head]
          exact ⟨_, rfl⟩
        obtain ⟨rest, starts⟩ := starts
        rw [List.range'_succ, List.flatMap_cons, starts]
        exact (counting_block (ih behind) lengths).2 rest (by omega) (starts ▸ tail)
    obtain ⟨m, rfl⟩ := Nat.exists_eq_succ_of_ne_zero
      (Nat.ne_of_gt (positive size List.mem_cons_self))
    rw [positions_cons, List.range_eq_range']
    exact runs m 0 (by omega)

theorem map_getElem?_range {α : Type} (domain : List α) :
    (List.range domain.length).map (domain[·]?) = domain.map some := by
  apply List.ext_getElem?
  intro i
  by_cases h : i < domain.length <;> simp [h]

theorem map_entries_positions {α : Type} (domains : List (List α)) :
    (positions (domains.map List.length)).map (entries domains) = choices domains := by
  induction domains with
  | nil => rfl
  | cons domain rest ih =>
    have first : ∀ d, ((positions (rest.map List.length)).map (d :: ·)).map
        (entries (domain :: rest)) =
          (choices rest).map fun tail => (domain[d]?).toList ++ tail := by
      intro d
      rw [← ih, List.map_map, List.map_map]
      apply List.map_congr_left
      intro x _
      cases h : domain[d]? <;> simp [entries, h]
    calc
      _ = (List.range domain.length).flatMap fun d =>
            (choices rest).map fun tail => (domain[d]?).toList ++ tail := by
        rw [List.map_cons, positions_cons, List.map_flatMap]
        exact congrArg (List.flatMap · _) (funext first)
      _ = ((List.range domain.length).map (domain[·]?)).flatMap fun a =>
            (choices rest).map fun tail => a.toList ++ tail := by
        rw [List.flatMap_map]
      _ = _ := by
        rw [map_getElem?_range, List.flatMap_map]
        rfl

theorem mem_positions {sizes position : List Nat} :
    position ∈ positions sizes ↔ List.Forall₂ (· < ·) position sizes := by
  rw [positions, mem_choices, List.forall₂_map_right_iff]
  simp only [List.mem_range]

/-- Each position comes after all those it is lexicographically greater than, so the last
domain is the fastest. -/
theorem pairwise_positions (sizes : List Nat) :
    (positions sizes).Pairwise (List.Lex (· < ·)) := by
  induction sizes with
  | nil => simp [positions, choices]
  | cons size sizes ih =>
    rw [positions_cons, List.pairwise_flatMap]
    constructor
    · intro d _
      exact ih.map _ fun _ _ before => .cons before
    · refine List.pairwise_lt_range.imp fun {d e} less x hx y hy => ?_
      obtain ⟨x', -, rfl⟩ := List.mem_map.mp hx
      obtain ⟨y', -, rfl⟩ := List.mem_map.mp hy
      exact .rel less

theorem entries_of_forall₂ {α : Type} [Inhabited α] {domains : List (List α)}
    {position : List Nat} (inside : List.Forall₂ (· < ·) position (domains.map List.length)) :
    entries domains position =
      List.zipWith (fun domain d => domain.getD d default) domains position := by
  induction domains generalizing position with
  | nil => rfl
  | cons domain rest ih =>
    cases inside with
    | cons below behind =>
      have tail := ih behind
      simp only [entries] at tail
      simp [entries, tail, List.getElem?_eq_getElem below, List.getD_eq_getElem?_getD]

theorem choices_eq_map_positions {α : Type} [Inhabited α] (domains : List (List α)) :
    choices domains = (positions (domains.map List.length)).map fun position =>
      List.zipWith (fun domain d => domain.getD d default) domains position := by
  rw [← map_entries_positions]
  exact List.map_congr_left fun position mem => entries_of_forall₂ (mem_positions.mp mem)

theorem product_eq_choices {α : Type} (domains : List (List α)) :
    product domains = choices domains := by
  unfold product
  split
  · rename_i h
    obtain ⟨domain, mem, empty⟩ := List.any_eq_true.mp h
    exact (choices_eq_nil (List.isEmpty_iff.mp empty ▸ mem)).symm
  · rename_i h
    have positive : ∀ n ∈ domains.map List.length, 0 < n := by
      intro n hn
      obtain ⟨domain, mem, rfl⟩ := List.mem_map.mp hn
      refine List.length_pos_iff.mpr fun empty => h ?_
      exact List.any_eq_true.mpr ⟨domain, mem, by simp [empty]⟩
    obtain ⟨rest, head⟩ := positions_head positive
    have counting := counting_positions positive
    have count := length_positions (domains.map List.length)
    rw [head] at counting count
    rw [List.length_cons] at count
    rw [← map_entries_positions, head]
    dsimp only
    rw [← count, readings_of_counting counting]

end Odometer

end AsmFixtures
