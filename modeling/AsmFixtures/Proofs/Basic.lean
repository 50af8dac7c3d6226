import Mathlib.Data.List.Dedup
import Mathlib.Data.List.Forall2

/-! Facts about results and lists. A sequence of steps gives a value when all of them do, and
fails with the first that fails; lists that correspond entry by entry have a partner for each, at
the same place; a search by key does not see that entries of another key are left out; numbers up
to a product fall into blocks; and a list without its repeats has no repeats. -/

namespace AsmFixtures

theorem bind_eq_ok {ε α β : Type} {x : Except ε α} {f : α → Except ε β} {b : β} :
    (x >>= f) = .ok b ↔ ∃ a, x = .ok a ∧ f a = .ok b := by
  cases x <;> simp [bind, Except.bind]

theorem mapError_eq_ok {ε δ α : Type} {x : Except ε α} {f : ε → δ} {a : α} :
    x.mapError f = .ok a ↔ x = .ok a := by
  cases x with
  | error e => constructor <;> intro h <;> cases h
  | ok b => constructor <;> intro h <;> cases h <;> rfl

theorem bind_eq_error {ε α β : Type} {x : Except ε α} {f : α → Except ε β} {e : ε} :
    (x >>= f) = .error e ↔ x = .error e ∨ ∃ a, x = .ok a ∧ f a = .error e := by
  cases x <;> simp [bind, Except.bind]

theorem mapError_eq_error {ε δ α : Type} {x : Except ε α} {f : ε → δ} {e : δ} :
    x.mapError f = .error e ↔ ∃ cause, x = .error cause ∧ f cause = e := by
  cases x <;> simp [Except.mapError]

theorem exists_getElem?_of_forall₂ {α β : Type} {R : α → β → Prop} {xs : List α} {ys : List β}
    (related : List.Forall₂ R xs ys) {i : Nat} {y : β} (here : ys[i]? = some y) :
    ∃ x, xs[i]? = some x ∧ R x y := by
  obtain ⟨inside, rfl⟩ := List.getElem?_eq_some_iff.mp here
  have partner : i < xs.length := by rwa [related.length_eq]
  exact ⟨xs[i], List.getElem?_eq_getElem partner, related.get partner inside⟩

theorem exists_of_forall₂ {α β : Type} {R : α → β → Prop} {xs : List α} {ys : List β}
    (related : List.Forall₂ R xs ys) {y : β} (mem : y ∈ ys) : ∃ x ∈ xs, R x y := by
  obtain ⟨i, here⟩ := List.mem_iff_getElem?.mp mem
  obtain ⟨x, at_i, holds⟩ := exists_getElem?_of_forall₂ related here
  exact ⟨x, List.mem_of_getElem? at_i, holds⟩

theorem lookup_filter_ne {κ α : Type} [BEq κ] [LawfulBEq κ] [DecidableEq κ] {key other : κ}
    (different : other ≠ key) (entries : List (κ × α)) :
    (entries.filter (·.1 ≠ key)).lookup other = entries.lookup other := by
  induction entries with
  | nil => rfl
  | cons entry rest ih =>
    obtain ⟨name, value⟩ := entry
    by_cases same : name = key
    · have apart : (other == name) = false := by simp [same, different]
      rw [List.filter_cons_of_neg (by simp [same]), ih, List.lookup_cons, apart]
    · rw [List.filter_cons_of_pos (by simp [same]), List.lookup_cons, List.lookup_cons, ih]

theorem map_range_mul {β : Type} (f : Nat → β) (m n : Nat) :
    (List.range (m * n)).map f =
      (List.range m).flatMap fun d => (List.range n).map fun r => f (d * n + r) := by
  induction m with
  | zero => simp
  | succ m ih =>
    rw [Nat.succ_mul, List.range_add, List.map_append, ih, List.range_succ, List.flatMap_append]
    simp

theorem nodup_eraseDups {α : Type} [DecidableEq α] : ∀ xs : List α, xs.eraseDups.Nodup
  | [] => by simp
  | x :: rest => by
    rw [List.eraseDups_cons, List.nodup_cons]
    exact ⟨by simp [List.mem_eraseDups], nodup_eraseDups _⟩
termination_by xs => xs.length
decreasing_by exact Nat.lt_succ_of_le (List.length_filter_le _ rest)

theorem eraseDups_perm_dedup {α : Type} [DecidableEq α] (xs : List α) :
    xs.eraseDups.Perm xs.dedup :=
  (List.perm_ext_iff_of_nodup (nodup_eraseDups xs) xs.nodup_dedup).mpr fun a => by
    rw [List.mem_eraseDups, List.mem_dedup]

end AsmFixtures
