import AsmFixtures.Database.Record
import AsmFixtures.Proofs.Basic
import AsmFixtures.Proofs.Product
import Mathlib.Algebra.BigOperators.Group.List.Basic
import Mathlib.Algebra.Order.Ring.Nat

/-! The odometer as a loop. Its readings are carried on in place, from the last wheel to the
left, until no wheel can move; reading number `n` holds the digits of `n` in the mixed radix
of the sizes, the last digit the least significant. So the loop comes to its end whatever the
domains are, and it gives the recursive product. -/

namespace AsmFixtures.Odometer

/-- A reading is raised in place at the last of its first wheels, as many as are given. A
wheel without another digit returns to zero, and the one in front of it is raised. -/
def carry (sizes : List Nat) : Nat → List Nat → Option (List Nat)
  | 0, _ => none
  | wheel + 1, digits =>
    let raised := digits.modify wheel (· + 1)
    if raised.getD wheel 0 < sizes.getD wheel 0 then some raised
    else carry sizes wheel (raised.set wheel 0)

theorem carry_succ (sizes : List Nat) (wheel : Nat) (digits : List Nat) :
    carry sizes (wheel + 1) digits =
      if (digits.modify wheel (· + 1)).getD wheel 0 < sizes.getD wheel 0 then
        some (digits.modify wheel (· + 1))
      else carry sizes wheel ((digits.modify wheel (· + 1)).set wheel 0) := rfl

theorem carry_cons (size digit : Nat) (sizes : List Nat) {wheels : Nat} {digits : List Nat}
    (bound : wheels ≤ digits.length) :
    carry (size :: sizes) (wheels + 1) (digit :: digits) =
      match carry sizes wheels digits with
      | some next => some (digit :: next)
      | none =>
        carry (size :: sizes) 1 (digit :: (List.replicate wheels 0 ++ digits.drop wheels)) := by
  induction wheels generalizing digits with
  | zero => rfl
  | succ wheel ih =>
    have returned : ((digits.modify wheel (· + 1)).set wheel 0).drop wheel =
        0 :: digits.drop (wheel + 1) := by
      rw [List.drop_eq_getElem_cons (by simpa using Nat.lt_of_succ_le bound)]
      simp [List.drop_set_of_lt, List.drop_modify_of_lt]
    have shorter : wheel ≤ ((digits.modify wheel (· + 1)).set wheel 0).length := by
      simpa using Nat.le_of_succ_le bound
    rw [carry_succ, carry_succ sizes, List.modify_succ_cons, List.getD_cons_succ,
      List.getD_cons_succ, List.set_cons_succ]
    split
    · rfl
    · rw [ih shorter, returned, List.replicate_succ', List.append_assoc, List.singleton_append]

theorem step_eq_carry {sizes digits : List Nat} (lengths : digits.length = sizes.length) :
    step sizes digits = carry sizes sizes.length digits := by
  induction sizes generalizing digits with
  | nil =>
    obtain rfl := List.eq_nil_of_length_eq_zero lengths
    rfl
  | cons size sizes ih =>
    obtain ⟨digit, digits, rfl⟩ := List.exists_cons_of_length_eq_add_one lengths
    have behind : digits.length = sizes.length := by simpa using lengths
    rw [List.length_cons, carry_cons _ _ _ behind.ge, ← ih behind, step]
    cases step sizes digits with
    | some next => rfl
    | none => simp [carry, ← behind, List.map_const']

/-- The loop from a reading on: the entries that the reading points at are taken, and the
reading is carried on, until no wheel can move. -/
inductive Loop {α : Type} (domains : List (List α)) : List Nat → List (List α) → Prop
  | last {digits : List Nat}
      (full : carry (domains.map List.length) domains.length digits = none) :
      Loop domains digits [entries domains digits]
  | next {digits more : List Nat} {later : List (List α)}
      (move : carry (domains.map List.length) domains.length digits = some more)
      (after : Loop domains more later) : Loop domains digits (entries domains digits :: later)

theorem Loop.unique {α : Type} {domains : List (List α)} {digits : List Nat}
    {first second : List (List α)} (h : Loop domains digits first)
    (other : Loop domains digits second) : first = second := by
  induction h generalizing second with
  | last full =>
    cases other with
    | last _ => rfl
    | next move _ => cases full.symm.trans move
  | next move _ ih =>
    cases other with
    | last full => cases full.symm.trans move
    | next again after =>
      obtain rfl := Option.some.inj (move.symm.trans again)
      rw [ih after]

theorem loop_of_counting {α : Type} {domains : List (List α)} {digits : List Nat}
    {later : List (List Nat)} (counting : Counting (domains.map List.length) (digits :: later))
    (lengths : ∀ x ∈ digits :: later, x.length = domains.length) :
    Loop domains digits ((digits :: later).map (entries domains)) := by
  have carries : ∀ x ∈ digits :: later, step (domains.map List.length) x =
      carry (domains.map List.length) domains.length x := by
    intro x mem
    have sized : x.length = (domains.map List.length).length := by simpa using lengths x mem
    rw [step_eq_carry sized, List.length_map]
  induction later generalizing digits with
  | nil =>
    cases counting with
    | last done => exact .last (carries digits List.mem_cons_self ▸ done)
  | cons more later ih =>
    cases counting with
    | next move tail =>
      refine .next (carries digits List.mem_cons_self ▸ move) (ih tail ?_ ?_)
      · exact fun x mem => lengths x (List.mem_cons_of_mem _ mem)
      · exact fun x mem => carries x (List.mem_cons_of_mem _ mem)

/-- The digits of a number in the mixed radix of some sizes, the last the least significant. -/
def digitsOf : List Nat → Nat → List Nat
  | [], _ => []
  | size :: sizes, n => n / sizes.prod % size :: digitsOf sizes n

theorem digitsOf_add_turns (sizes : List Nat) (turns n : Nat) :
    digitsOf sizes (turns * sizes.prod + n) = digitsOf sizes n := by
  induction sizes generalizing turns with
  | nil => rfl
  | cons size sizes ih =>
    have split : turns * (size :: sizes).prod + n = turns * size * sizes.prod + n := by
      rw [List.prod_cons, Nat.mul_assoc]
    rw [split, digitsOf, digitsOf, ih]
    congr 1
    rcases Nat.eq_zero_or_pos sizes.prod with zero | positive
    · simp [zero]
    · rw [Nat.mul_comm, Nat.mul_add_div positive, Nat.mul_comm turns, Nat.mul_add_mod]

theorem positions_eq_map_digitsOf (sizes : List Nat) :
    positions sizes = (List.range sizes.prod).map (digitsOf sizes) := by
  induction sizes with
  | nil => rfl
  | cons size sizes ih =>
    rw [positions_cons, ih, List.prod_cons, map_range_mul]
    apply List.flatMap_congr
    intro d digit
    rw [List.map_map]
    apply List.map_congr_left
    intro r rest
    have wheel : (d * sizes.prod + r) / sizes.prod % size = d := by
      rw [List.mem_range] at digit rest
      rw [Nat.mul_comm, Nat.mul_add_div (Nat.zero_lt_of_lt rest), Nat.div_eq_of_lt rest,
        Nat.add_zero, Nat.mod_eq_of_lt digit]
    rw [Function.comp_apply, digitsOf, wheel, digitsOf_add_turns]

theorem map_some_entries {α : Type} {domains : List (List α)} {position : List Nat}
    (inside : List.Forall₂ (· < ·) position (domains.map List.length)) :
    (entries domains position).map some =
      List.zipWith (fun domain digit => domain[digit]?) domains position := by
  induction domains generalizing position with
  | nil => rfl
  | cons domain rest ih =>
    cases inside with
    | cons below behind =>
      have tail := ih behind
      simp only [entries] at tail
      simp [entries, tail, List.getElem?_eq_getElem below]

structure CountedThrough {α : Type} (domains combinations : List (List α)) : Prop where
  ends : [] ∉ domains → ∀ result,
    Loop domains (domains.map fun _ => 0) result ↔ result = combinations
  recursive : combinations = choices domains
  length_eq : combinations.length = (domains.map List.length).prod
  digits : ∀ n < (domains.map List.length).prod, ∃ combination,
    combinations[n]? = some combination ∧
      combination.map some = List.zipWith (fun domain digit => domain[digit]?) domains
        (digitsOf (domains.map List.length) n)
  of_empty : [] ∈ domains → combinations = []
  of_none : domains = [] → combinations = [[]]

theorem loop_product {α : Type} {domains : List (List α)} (nonempty : [] ∉ domains) :
    Loop domains (domains.map fun _ => 0) (product domains) := by
  have positive : ∀ n ∈ domains.map List.length, 0 < n := by
    intro n mem
    obtain ⟨domain, here, rfl⟩ := List.mem_map.mp mem
    exact List.length_pos_iff.mpr fun empty => nonempty (empty ▸ here)
  obtain ⟨later, head⟩ := positions_head positive
  have counting := counting_positions positive
  have lengths : ∀ x ∈ positions (domains.map List.length), x.length = domains.length := by
    intro x mem
    simpa using (mem_positions.mp mem).length_eq
  have zeros : ((domains.map List.length).map fun _ => 0) = domains.map fun _ => 0 :=
    List.map_map
  rw [product_eq_choices, ← map_entries_positions]
  rw [head, zeros] at counting lengths ⊢
  exact loop_of_counting counting lengths

theorem getElem?_choices {α : Type} (domains : List (List α)) {n : Nat}
    (bound : n < (domains.map List.length).prod) :
    (choices domains)[n]? =
      some (entries domains (digitsOf (domains.map List.length) n)) := by
  rw [← map_entries_positions, positions_eq_map_digitsOf]
  simp [bound]

/-- The odometer counts through the recursive product, and it gives the forms of a record
their tokens. -/
theorem product_counts_through {α : Type} (domains : List (List α)) :
    CountedThrough domains (product domains) ∧
      ∀ r : Record, product r.slots = r.forms.map Form.args := by
  refine ⟨⟨?_, product_eq_choices domains, ?_, ?_, ?_, ?_⟩, ?_⟩
  · intro nonempty result
    exact ⟨fun run => run.unique (loop_product nonempty), fun same => same ▸ loop_product nonempty⟩
  · rw [product_eq_choices, length_choices, List.prod_eq_foldr]
  · intro n bound
    have inside : digitsOf (domains.map List.length) n ∈
        positions (domains.map List.length) := by
      rw [positions_eq_map_digitsOf]
      exact List.mem_map_of_mem (List.mem_range.mpr bound)
    rw [product_eq_choices, getElem?_choices domains bound]
    exact ⟨_, rfl, map_some_entries (mem_positions.mp inside)⟩
  · intro empty
    rw [product_eq_choices, choices_eq_nil empty]
  · rintro rfl
    rfl
  · intro r
    simp [product_eq_choices, Record.forms, Function.comp_def]

example : product [["k1", "k2"], ["r"], ["x", "x", "y"]] =
    [["k1", "r", "x"], ["k1", "r", "x"], ["k1", "r", "y"],
      ["k2", "r", "x"], ["k2", "r", "x"], ["k2", "r", "y"]] := by decide

end AsmFixtures.Odometer
