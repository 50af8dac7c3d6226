import Mathlib

/-! Numbers in decimal. A number is written with digits only, and one below zero with a minus sign
in front of them. -/

namespace AsmFixtures.Text

def decimal (value : Int) : String :=
  (if value < 0 then "-" else "") ++ String.ofList (Nat.toDigits 10 value.natAbs)

theorem toString_int_eq (value : Int) : toString value = decimal value := by
  cases value with
  | ofNat n =>
    have nonneg : ¬ Int.ofNat n < 0 := Int.not_lt.mpr (Int.natCast_nonneg n)
    rw [decimal, if_neg nonneg, String.empty_append]
    exact Nat.repr_eq_ofList_toDigits
  | negSucc n =>
    rw [decimal, if_pos (Int.negSucc_lt_zero n), Int.natAbs_negSucc]
    exact congrArg ("-" ++ ·) Nat.repr_eq_ofList_toDigits

theorem decimal_injective : Function.Injective decimal := by
  intro value other same
  rw [← toString_int_eq, ← toString_int_eq] at same
  exact Int.repr_injective same

theorem decimal_ne_empty (value : Int) : decimal value ≠ "" := by
  intro none
  have digits : Nat.toDigits 10 value.natAbs = [] := by
    simpa using (String.append_eq_empty_iff.mp none).2
  exact Nat.toDigits_ne_nil digits

theorem not_mem_toDigits {c : Char} (letter : c.isDigit = false) (n : Nat) :
    c ∉ Nat.toDigits 10 n := by
  intro mem
  have digit := Nat.isDigit_of_mem_toDigits (by decide) (by decide) mem
  rw [letter] at digit
  cases digit

theorem not_mem_decimal {c : Char} (letter : c.isDigit = false) (apart : c ≠ '-') (value : Int) :
    c ∉ (decimal value).toList := by
  have digits := not_mem_toDigits letter value.natAbs
  rw [decimal]
  split <;> simp [apart, digits]

end AsmFixtures.Text
