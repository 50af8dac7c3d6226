import AsmFixtures.Variant
import Mathlib.Data.List.Nodup
import Mathlib.Data.List.Pairwise
import Mathlib.Tactic.SplitIfs

/-! The parameter sets of a form as sets. Each holds one REX.W parameter and one vector
length, and the operand size is the same in all of them; so two of them never have the same
members, there is at least one, and none has two parameters of one family. -/

namespace AsmFixtures

inductive Param.Family
  | rexw | vectorLength | operandSize
deriving DecidableEq

def Param.family : Param → Param.Family
  | rexw0 | rexw1 => .rexw
  | vexl128 | vexl256 | vexl512 => .vectorLength
  | eosz8 | eosz16 | eosz32 | eosz64 => .operandSize

def OnePerFamily (params : List Param) : Prop := params.Pairwise fun p q => p.family ≠ q.family

instance (params : List Param) : Decidable (OnePerFamily params) :=
  inferInstanceAs (Decidable (params.Pairwise _))

theorem OnePerFamily.eq_or_apart {params : List Param} (one : OnePerFamily params) {p q : Param}
    (hp : p ∈ params) (hq : q ∈ params) : p = q ∨ p.family ≠ q.family := by
  by_cases same : p = q
  · exact .inl same
  · have symmetric : Std.Symm fun p q : Param => p.family ≠ q.family := ⟨fun _ _ => Ne.symm⟩
    exact .inr (List.Pairwise.forall one hp hq same)

theorem OnePerFamily.perm {params other : List Param} (one : OnePerFamily params)
    (same : params.Perm other) : OnePerFamily other :=
  (same.pairwise_iff Ne.symm).mp one

theorem OnePerFamily.eq_of_family {params : List Param} (one : OnePerFamily params) {p q : Param}
    (hp : p ∈ params) (hq : q ∈ params) (same : p.family = q.family) : p = q :=
  (one.eq_or_apart hp hq).resolve_right fun apart => apart same

namespace Variant

theorem rexw_sublist (encoding : String) : (rexw encoding).Sublist [.rexw0, .rexw1] := by
  unfold rexw
  split_ifs <;> decide

theorem vectorLength_sublist (encoding : String) :
    (vectorLength encoding).Sublist [.vexl128, .vexl256, .vexl512] := by
  unfold vectorLength
  split_ifs <;> decide

theorem rexw_ne_nil (encoding : String) : rexw encoding ≠ [] := by
  unfold rexw
  split_ifs <;> decide

theorem vectorLength_ne_nil (encoding : String) : vectorLength encoding ≠ [] := by
  unfold vectorLength
  split_ifs <;> decide

theorem family_of_mem_rexw {encoding : String} {p : Param} (h : p ∈ rexw encoding) :
    p.family = .rexw :=
  (by decide : ∀ p ∈ [Param.rexw0, .rexw1], p.family = .rexw) p ((rexw_sublist encoding).subset h)

theorem family_of_mem_vectorLength {encoding : String} {p : Param}
    (h : p ∈ vectorLength encoding) : p.family = .vectorLength :=
  (by decide : ∀ p ∈ [Param.vexl128, .vexl256, .vexl512], p.family = .vectorLength) p
    ((vectorLength_sublist encoding).subset h)

theorem mem_operandSize_iff {keys : List String} {p : Param} :
    p ∈ operandSize keys ↔ p = .eosz64 ∧ "r64" ∈ keys := by
  unfold operandSize
  split_ifs with wide <;> simp [wide]

theorem family_of_mem_operandSize {keys : List String} {p : Param} (h : p ∈ operandSize keys) :
    p.family = .operandSize := by
  rw [(mem_operandSize_iff.mp h).1]
  rfl

theorem told_of_same_members {encoding : String} {keys : List String} {w w' vl vl' : Param}
    (hw : w ∈ rexw encoding) (hw' : w' ∈ rexw encoding) (hvl : vl ∈ vectorLength encoding)
    (hvl' : vl' ∈ vectorLength encoding)
    (same : ∀ p, p ∈ w :: vl :: operandSize keys ↔ p ∈ w' :: vl' :: operandSize keys) :
    w = w' ∧ vl = vl' := by
  have first := (same w).mp List.mem_cons_self
  have second := (same vl).mp (List.mem_cons_of_mem _ List.mem_cons_self)
  simp only [List.mem_cons] at first second
  constructor
  · rcases first with same | other | size
    · exact same
    · exact absurd (family_of_mem_rexw hw) (by rw [other, family_of_mem_vectorLength hvl']; decide)
    · exact absurd (family_of_mem_rexw hw) (by rw [family_of_mem_operandSize size]; decide)
  · rcases second with other | same | size
    · exact absurd (family_of_mem_vectorLength hvl) (by rw [other, family_of_mem_rexw hw']; decide)
    · exact same
    · exact absurd (family_of_mem_vectorLength hvl)
        (by rw [family_of_mem_operandSize size]; decide)

theorem all_ne_nil (encoding : String) (keys : List String) : all encoding keys ≠ [] := by
  simpa [all, vectorLength_ne_nil] using List.exists_mem_of_ne_nil _ (rexw_ne_nil encoding)

theorem pairwise_all (encoding : String) (keys : List String) :
    (all encoding keys).Pairwise fun a b => ¬ ∀ p, p ∈ a ↔ p ∈ b := by
  have lengths : (vectorLength encoding).Nodup :=
    (vectorLength_sublist encoding).nodup (by decide)
  have bits : (rexw encoding).Nodup := (rexw_sublist encoding).nodup (by decide)
  rw [all, List.pairwise_flatMap]
  constructor
  · intro w hw
    rw [List.pairwise_map]
    refine lengths.imp_of_mem fun hvl hvl' different same => different ?_
    exact (told_of_same_members hw hw hvl hvl' same).2
  · refine bits.imp_of_mem fun hw hw' different a ha b hb same => different ?_
    obtain ⟨vl, hvl, rfl⟩ := List.mem_map.mp ha
    obtain ⟨vl', hvl', rfl⟩ := List.mem_map.mp hb
    exact (told_of_same_members hw hw' hvl hvl' same).1

/-- A REX.W parameter and a vector length, and an operand size just for operands that need one. -/
structure Consistent (keys : List String) (params : List Param) : Prop where
  onePerFamily : OnePerFamily params
  rexw : ∃! p, p ∈ params ∧ p.family = .rexw
  vectorLength : ∃! p, p ∈ params ∧ p.family = .vectorLength
  operandSize : ∀ p ∈ params, p.family = .operandSize → p = .eosz64
  wide : .eosz64 ∈ params ↔ "r64" ∈ keys

theorem onePerFamily_set {w vl : Param} (keys : List String) (bit : w.family = .rexw)
    (length : vl.family = .vectorLength) : OnePerFamily (w :: vl :: operandSize keys) := by
  have size := @family_of_mem_operandSize keys
  have sizes : OnePerFamily (operandSize keys) := by
    unfold operandSize
    split_ifs <;> decide
  refine .cons (fun p hp => ?_) (.cons (fun p hp => ?_) sizes)
  · rcases List.mem_cons.mp hp with rfl | later
    · simp [bit, length]
    · simp [bit, size later]
  · simp [length, size hp]

theorem mem_set_iff_of_operandSize {w vl p : Param} {keys : List String} (bit : w.family = .rexw)
    (length : vl.family = .vectorLength) (size : p.family = .operandSize) :
    p ∈ w :: vl :: operandSize keys ↔ p = .eosz64 ∧ "r64" ∈ keys := by
  have notBit : p ≠ w := by
    rintro rfl
    cases bit.symm.trans size
  have notLength : p ≠ vl := by
    rintro rfl
    cases length.symm.trans size
  simp [notBit, notLength, mem_operandSize_iff]

theorem consistent_of_mem_all {encoding : String} {keys : List String} {params : List Param}
    (mem : params ∈ all encoding keys) : Consistent keys params := by
  obtain ⟨w, hw, made⟩ := List.mem_flatMap.mp mem
  obtain ⟨vl, hvl, rfl⟩ := List.mem_map.mp made
  have bit := family_of_mem_rexw hw
  have length := family_of_mem_vectorLength hvl
  have one := onePerFamily_set keys bit length
  have first : w ∈ w :: vl :: operandSize keys := List.mem_cons_self
  have second : vl ∈ w :: vl :: operandSize keys := List.mem_cons_of_mem _ List.mem_cons_self
  refine ⟨one, ⟨w, ⟨first, bit⟩, fun p hp => ?_⟩, ⟨vl, ⟨second, length⟩, fun p hp => ?_⟩,
    fun p hp size => ?_, ?_⟩
  · exact one.eq_of_family hp.1 first (hp.2.trans bit.symm)
  · exact one.eq_of_family hp.1 second (hp.2.trans length.symm)
  · exact ((mem_set_iff_of_operandSize bit length size).mp hp).1
  · simpa using mem_set_iff_of_operandSize (p := .eosz64) bit length rfl

end Variant

end AsmFixtures
