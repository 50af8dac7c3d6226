import AsmFixtures.Text.Blank
import AsmFixtures.Text.Quoted
import Mathlib

/-! Hexadecimal numbers. They are made of sixteen characters, none of which is a blank. -/

namespace AsmFixtures.Text

def hexAlphabet : List Char := "0123456789abcdef".toList

theorem mem_toDigits (n : Nat) : ∀ c ∈ Nat.toDigits 16 n, c ∈ hexAlphabet := by
  have digit : ∀ d < 16, Nat.digitChar d ∈ hexAlphabet := by decide
  induction n using Nat.strongRecOn with
  | ind n ih =>
    by_cases small : n < 16
    · rw [Nat.toDigits_of_lt_base small]
      simpa using digit n small
    · rw [Nat.toDigits_of_base_le (by decide) (Nat.not_lt.mp small)]
      intro c mem
      rcases List.mem_append.mp mem with front | last
      · exact ih _ (by omega) c front
      · rw [List.mem_singleton.mp last]
        exact digit _ (Nat.mod_lt n (by decide))

theorem mem_hexDigits {width value : Nat} {c : Char} (h : c ∈ hexDigits width value) :
    c ∈ hexAlphabet := by
  rcases List.mem_append.mp h with zero | digit
  · rw [List.eq_of_mem_replicate zero]
    decide
  · exact mem_toDigits value c digit

theorem width_le_length_hexDigits (width value : Nat) : width ≤ (hexDigits width value).length := by
  simp only [hexDigits, List.length_append, List.length_replicate]
  omega

theorem not_isBlank_of_mem_hexAlphabet {c : Char} (mem : c ∈ hexAlphabet) : isBlank c = false := by
  have plain : hexAlphabet.all (! isBlank ·) = true := by decide
  simpa using List.all_eq_true.mp plain c mem

end AsmFixtures.Text
