import AsmFixtures.Proofs.OperandClass.GoSyntax
import AsmFixtures.Proofs.OperandClass.Sampler
import Mathlib.Data.Nat.ModEq

/-! Windows that hold an entry twice. A window of different entries that is no longer than
the domain repeats none of them, also where it starts over. The vector registers repeat in
their domains, but a window of one entry is safe from that too; only the windows of two
entries can meet a register beside itself, and the domain has two such places. -/

namespace AsmFixtures.Sampler

open OperandClass

theorem nodup_window {α : Type} {entries : List α} (h : entries.Nodup) (start : Nat) {count : Nat}
    (le : count ≤ entries.length) : (window entries start count).Nodup := by
  by_cases empty : entries = []
  · rw [empty, window_nil]
    exact List.nodup_nil
  · rw [List.nodup_iff_getElem?_ne_getElem?]
    intro i j before inside same
    rw [length_window empty] at inside
    rw [getElem?_window empty start inside,
      getElem?_window empty start (before.trans inside)] at same
    have bound := Nat.mod_lt (start + i) (List.length_pos_iff.mpr empty)
    have lap : start + i ≡ start + j [MOD entries.length] := (List.getElem?_inj bound h).mp same
    have meet := Nat.ModEq.add_left_cancel' start lap
    rw [Nat.ModEq, Nat.mod_eq_of_lt (by omega), Nat.mod_eq_of_lt (by omega)] at meet
    omega

theorem window_map {α β : Type} (f : α → β) (entries : List α) (start count : Nat) :
    window (entries.map f) start count = (window entries start count).map f := by
  simp [window, List.map_filterMap]

def Doubled (key : String) (n : Nat) : Prop := key = "zmm" ∧ (n % 96 = 6 ∨ n % 96 = 45)

instance (key : String) (n : Nat) : Decidable (Doubled key n) :=
  inferInstanceAs (Decidable (_ ∧ _))

theorem nodup_zmmNumbers_window :
    ∀ n < 96, (window zmmNumbers (n * 2) 2).Nodup ↔ ¬ (n = 6 ∨ n = 45) := by decide +kernel

theorem nodup_nthWindow_zmm (n : Nat) :
    (nthWindow "zmm" n).Nodup ↔ ¬ (n % 96 = 6 ∨ n % 96 = 45) := by
  have count : peekCount "zmm" = 2 := by decide +kernel
  have turn : n * 2 % zmmNumbers.length = n % 96 * 2 := Nat.mul_mod_mul_right 2 n 96
  have numbers : nthWindow "zmm" n = (window zmmNumbers (n % 96 * 2) 2).map (.vector "Z") := by
    rw [nthWindow, count, show domain "zmm" = zmmNumbers.map (.vector "Z") from rfl, window_map,
      ← turn, window_mod]
  rw [numbers, ← nodup_zmmNumbers_window (n % 96) (Nat.mod_lt n (by decide))]
  refine ⟨List.Nodup.of_map _, fun h => h.map_on fun a ha b hb same => ?_⟩
  obtain ⟨k, rfl⟩ := Int.eq_ofNat_of_zero_le (zmmNumbers_nonneg a (mem_of_mem_window ha))
  obtain ⟨l, rfl⟩ := Int.eq_ofNat_of_zero_le (zmmNumbers_nonneg b (mem_of_mem_window hb))
  rw [vector_injective (congrArg Entry.goSyntax same)]

theorem nodup_nthWindow_of_single {key : String} (single : peekCount key = 1) (n : Nat) :
    (nthWindow key n).Nodup := by
  have length : (nthWindow key n).length = 1 := by
    rw [← single]
    exact (drawable_window key _).length_eq
  obtain ⟨e, one⟩ := List.length_eq_one_iff.mp length
  rw [one]
  exact List.nodup_singleton e

/-- A window holds an entry twice just where the table says so. -/
theorem nodup_nthWindow_iff (key : String) (n : Nat) :
    (nthWindow key n).Nodup ↔ ¬ Doubled key n := by
  by_cases vector : key ∈ vectorClasses
  · simp only [vectorClasses, List.mem_cons, List.not_mem_nil, or_false] at vector
    rcases vector with rfl | rfl | rfl
    · exact iff_of_true (nodup_nthWindow_of_single (by decide +kernel) n) (by simp [Doubled])
    · exact iff_of_true (nodup_nthWindow_of_single (by decide +kernel) n) (by simp [Doubled])
    · simpa [Doubled] using nodup_nthWindow_zmm n
  · have different : (domain key).Nodup := (listed_domain vector).nodup.of_map _
    refine iff_of_true (nodup_window different _ (peekCount_le_length key)) ?_
    rintro ⟨rfl, _⟩
    exact vector (by decide)

theorem take_eq_nthWindow (key : String) :
    (domain key).take (peekCount key) = nthWindow key 0 := by
  rw [take_eq_window (peekCount_le_length key), nthWindow, Nat.zero_mul]

end AsmFixtures.Sampler
