import AsmFixtures.OperandClass.Sampler
import AsmFixtures.Proofs.Basic
import AsmFixtures.Proofs.Product
import Mathlib.Data.List.Forall2

/-! What a sampler draws. Whatever its cursors, a draw takes as many entries as the class
has to give at once, all from its domain. A sampler that does not rotate draws the same
opening each time. One that rotates has moved each cursor by whole draws from that class
only, so the number of earlier draws from a class fixes the next window. -/

namespace AsmFixtures.Sampler

open OperandClass

theorem cursor_moveTo (s : Sampler) (key other : String) (position : Nat) :
    (s.moveTo key position).cursor other =
      if other = key then position else s.cursor other := by
  unfold cursor moveTo
  by_cases same : other = key
  · simp [same]
  · have apart : (other == key) = false := by simp [same]
    simp only [List.lookup_cons, apart, lookup_filter_ne same, if_neg same]

theorem map_some_window {α : Type} {entries : List α} (h : entries ≠ []) (start count : Nat) :
    (window entries start count).map some =
      (List.range count).map fun i => entries[(start + i) % entries.length]? := by
  have positive : 0 < entries.length := List.length_pos_iff.mpr h
  unfold window
  induction List.range count with
  | nil => rfl
  | cons i rest ih =>
    have bound := Nat.mod_lt (start + i) positive
    simp [List.getElem?_eq_getElem bound, ih]

theorem length_window {α : Type} {entries : List α} (h : entries ≠ []) (start count : Nat) :
    (window entries start count).length = count := by
  simpa using congrArg List.length (map_some_window h start count)

theorem getElem?_window {α : Type} {entries : List α} (h : entries ≠ []) (start : Nat)
    {count i : Nat} (hi : i < count) :
    (window entries start count)[i]? = entries[(start + i) % entries.length]? := by
  have bound : i < (window entries start count).length := by rwa [length_window h]
  have entry := congrArg (·[i]?) (map_some_window h start count)
  simpa [hi, List.getElem?_eq_getElem bound] using entry

theorem mem_of_mem_window {α : Type} {entries : List α} {start count : Nat} {a : α}
    (h : a ∈ window entries start count) : a ∈ entries := by
  obtain ⟨i, _, hi⟩ := List.mem_filterMap.mp h
  exact List.mem_of_getElem? hi

theorem window_mod {α : Type} (entries : List α) (start count : Nat) :
    window entries (start % entries.length) count = window entries start count := by
  simp only [window, Nat.mod_add_mod]

theorem window_nil {α : Type} (start count : Nat) : window ([] : List α) start count = [] := by
  simp [window]

theorem take_window {α : Type} {entries : List α} (start : Nat) {n count : Nat}
    (le : n ≤ count) : (window entries start count).take n = window entries start n := by
  by_cases empty : entries = []
  · subst empty
    rw [window_nil, window_nil, List.take_nil]
  · apply List.map_injective_iff.mpr fun _ _ => Option.some.inj
    rw [List.map_take, map_some_window empty, map_some_window empty, ← List.map_take,
      List.take_range, Nat.min_eq_left le]

theorem window_length {α : Type} (entries : List α) :
    window entries 0 entries.length = entries := by
  apply List.ext_getElem?
  intro i
  by_cases empty : entries = []
  · rw [empty]
    rfl
  · by_cases inside : i < entries.length
    · rw [getElem?_window empty 0 inside, Nat.zero_add, Nat.mod_eq_of_lt inside]
    · have beyond := Nat.le_of_not_lt inside
      rw [List.getElem?_eq_none (by rwa [length_window empty]), List.getElem?_eq_none beyond]

theorem take_eq_window {α : Type} {entries : List α} {count : Nat}
    (le : count ≤ entries.length) : entries.take count = window entries 0 count := by
  rw [← take_window 0 le, window_length]

theorem domain_ne_nil {key : String} (h : peekCount key ≠ 0) : domain key ≠ [] := by
  intro empty
  have le := peekCount_le_length key
  simp only [empty, List.length_nil] at le
  omega

structure Drawable (key : String) (entries : List Entry) : Prop where
  length_eq : entries.length = peekCount key
  mem_domain : ∀ e ∈ entries, e ∈ domain key

theorem drawable_take (key : String) : Drawable key ((domain key).take (peekCount key)) where
  length_eq := by rw [List.length_take, Nat.min_eq_left (peekCount_le_length key)]
  mem_domain _ h := List.mem_of_mem_take h

theorem drawable_window (key : String) (start : Nat) :
    Drawable key (window (domain key) start (peekCount key)) where
  length_eq := by
    by_cases h : peekCount key = 0
    · simp [h, window]
    · exact length_window (domain_ne_nil h) start _
  mem_domain _ h := mem_of_mem_window h

theorem drawable_peek (s : Sampler) (key : String) : Drawable key (s.peek key).1 := by
  unfold peek
  dsimp only
  split
  · exact drawable_window key _
  · exact drawable_take key

theorem drawable_draws (s : Sampler) (keys : List String) :
    List.Forall₂ Drawable keys (s.draws keys).1 := by
  induction keys generalizing s with
  | nil => exact .nil
  | cons key keys ih => exact .cons (drawable_peek s key) (ih (s.peek key).2)

theorem entries_of_drawable {keys : List String} {windows : List (List Entry)}
    (drawable : List.Forall₂ Drawable keys windows) {args : List Entry}
    (mem : args ∈ choices windows) :
    List.Forall₂ (fun key e => e ∈ domain key) keys args := by
  have chosen := mem_choices.mp mem
  induction drawable generalizing args with
  | nil =>
    cases chosen
    exact .nil
  | cons first _ ih =>
    cases chosen with
    | cons entry rest => exact .cons (first.mem_domain _ entry) (ih (mem_choices.mpr rest) rest)

theorem not_mem_nil_of_drawable {keys : List String} {windows : List (List Entry)}
    (drawable : List.Forall₂ Drawable keys windows) (gives : ∀ key ∈ keys, peekCount key ≠ 0) :
    [] ∉ windows := by
  induction drawable with
  | nil => exact List.not_mem_nil
  | @cons key window keys windows first _ ih =>
    obtain ⟨here, behind⟩ := List.forall_mem_cons.mp gives
    rintro (_ | ⟨_, mem⟩)
    · exact here first.length_eq.symm
    · exact ih behind mem

theorem length_choices_of_drawable {keys : List String} {windows : List (List Entry)}
    (drawable : List.Forall₂ Drawable keys windows) :
    (choices windows).length = (keys.map peekCount).foldr (· * ·) 1 := by
  rw [length_choices]
  congr 1
  induction drawable with
  | nil => rfl
  | cons first _ ih => rw [List.map_cons, List.map_cons, first.length_eq, ih]

theorem draws_cons (s : Sampler) (key : String) (keys : List String) :
    s.draws (key :: keys) =
      ((s.peek key).1 :: ((s.peek key).2.draws keys).1, ((s.peek key).2.draws keys).2) := rfl

theorem combinations_eq_choices (s : Sampler) (keys : List String) :
    s.combinations keys = (choices (s.draws keys).1, (s.draws keys).2) := by
  rw [combinations, ← Odometer.product_eq_choices]

theorem draws_of_not_rotate {s : Sampler} (h : s.rotate = false) (keys : List String) :
    s.draws keys = (keys.map fun key => (domain key).take (peekCount key), s) := by
  induction keys with
  | nil => rfl
  | cons key keys ih => simp [draws_cons, peek, h, ih]

/-- Window number `n` of a class, where each window starts at the end of the one before. -/
def nthWindow (key : String) (n : Nat) : List Entry :=
  window (domain key) (n * peekCount key) (peekCount key)

/-- A rotating sampler that drew so many times from each class. -/
structure Drawn (s : Sampler) (times : String → Nat) : Prop where
  rotates : s.rotate = true
  cursor_eq : ∀ key, s.cursor key = times key * peekCount key % (domain key).length

theorem drawn_start : Drawn { rotate := true } fun _ => 0 where
  rotates := rfl
  cursor_eq key := by simp [cursor]

theorem peek_of_drawn {s : Sampler} {times : String → Nat} (h : s.Drawn times)
    (key : String) :
    (s.peek key).1 = nthWindow key (times key) ∧
      (s.peek key).2.Drawn fun k => times k + [key].count k := by
  have rotates := h.rotates
  have start := h.cursor_eq key
  simp only [peek, rotates, if_true]
  refine ⟨by rw [start, window_mod, nthWindow], rotates, fun other => ?_⟩
  rw [cursor_moveTo]
  split
  · rename_i same
    subst same
    simp [start, Nat.mod_add_mod, Nat.succ_mul]
  · rename_i different
    simp [h.cursor_eq other, Ne.symm different]

def windowsAfter (times : String → Nat) : List String → List (List Entry)
  | [] => []
  | key :: keys =>
    nthWindow key (times key) :: windowsAfter (fun k => times k + [key].count k) keys

theorem draws_of_drawn {s : Sampler} {times : String → Nat} (h : s.Drawn times)
    (keys : List String) :
    (s.draws keys).1 = windowsAfter times keys ∧
      (s.draws keys).2.Drawn fun k => times k + keys.count k := by
  induction keys generalizing s times with
  | nil => exact ⟨rfl, by simpa [draws] using h⟩
  | cons key keys ih =>
    obtain ⟨first, after⟩ := peek_of_drawn h key
    obtain ⟨rest, last⟩ := ih after
    refine ⟨by rw [draws_cons, first, rest, windowsAfter], ?_⟩
    have counts : ∀ k,
        times k + [key].count k + keys.count k = times k + (key :: keys).count k := by
      intro k
      rw [Nat.add_assoc, ← List.count_append, List.singleton_append]
    simpa only [draws_cons, counts] using last

theorem length_windowsAfter (times : String → Nat) (keys : List String) :
    (windowsAfter times keys).length = keys.length := by
  induction keys generalizing times with
  | nil => rfl
  | cons key keys ih => rw [windowsAfter, List.length_cons, List.length_cons, ih]

/-- The window at a position is numbered by the draws before it, from the same class, in
this list and ahead of it. -/
theorem getElem?_windowsAfter {times : String → Nat} {keys : List String} {j : Nat}
    {key : String} (h : keys[j]? = some key) :
    (windowsAfter times keys)[j]? =
      some (nthWindow key (times key + (keys.take j).count key)) := by
  induction keys generalizing times j with
  | nil => simp at h
  | cons first keys ih =>
    cases j with
    | zero =>
      obtain rfl : first = key := by simpa using h
      simp [windowsAfter]
    | succ j =>
      have tail : keys[j]? = some key := by simpa using h
      rw [windowsAfter, List.getElem?_cons_succ, ih tail, List.take_succ_cons, Nat.add_assoc,
        ← List.count_append, List.singleton_append]

theorem windowsAfter_congr {times others : String → Nat} {keys : List String}
    (h : ∀ key ∈ keys, times key = others key) :
    windowsAfter times keys = windowsAfter others keys := by
  induction keys generalizing times others with
  | nil => rfl
  | cons key keys ih =>
    rw [windowsAfter, windowsAfter, h key List.mem_cons_self]
    congr 1
    exact ih fun k hk => by rw [h k (List.mem_cons_of_mem _ hk)]

end AsmFixtures.Sampler
