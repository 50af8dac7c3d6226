import AsmFixtures.Operand
import AsmFixtures.Proofs.Basic
import Mathlib

/-! Which arguments are operands. A register always is one; an immediate needs one of seven
shapes and a value in the range of its shape, and an address a displacement of 32 signed bits,
a known scale and a known displacement size. Anything else is refused with a reason, and the
first argument that is refused decides about a list of them. -/

namespace AsmFixtures

inductive Argument.Encodable : Argument → Prop
  | register (name : String) : Encodable (.reg name)
  | unsigned {value width : Int} (shape : width ∈ ([8, 16, 32, 64] : List Int))
      (low : 0 ≤ value) (high : value < 2 ^ width.toNat) : Encodable (.imm value width true)
  | signed {value width : Int} (shape : width ∈ ([8, 16, 32] : List Int))
      (low : -2 ^ (width.toNat - 1) ≤ value) (high : value < 2 ^ (width.toNat - 1)) :
      Encodable (.imm value width false)
  | memory {m : MemoryArgument} (low : -2 ^ 31 ≤ m.disp) (high : m.disp < 2 ^ 31)
      (scale : m.scale ∈ ([0, 1, 2, 4, 8] : List Int))
      (size : m.size = .smallest ∨ m.size = .disp8 ∨ m.size = .disp32) : Encodable (.mem m)

def Argument.Proper : Argument → Prop
  | .other _ => False
  | _ => True

/-- The values of a signed range. No bits hold only zero. -/
def SignedRange (bits : Nat) (value : Int) : Prop :=
  if bits = 0 then value = 0 else -2 ^ (bits - 1) ≤ value ∧ value < 2 ^ (bits - 1)

theorem fits_unsigned_iff (value : Int) (bits : Nat) :
    fits value bits false = true ↔ 0 ≤ value ∧ value < 2 ^ bits := by
  simp only [fits, Bool.false_eq_true, if_false, Bool.and_eq_true, decide_eq_true_eq]
  rfl

theorem fits_signed_iff (value : Int) (bits : Nat) :
    fits value bits true = true ↔ -2 ^ (bits - 1) ≤ value ∧ value < 2 ^ (bits - 1) := by
  simp only [fits, if_true, Bool.and_eq_true, decide_eq_true_eq]
  rfl

namespace MemoryArgument

variable {m : MemoryArgument}

def factor (m : MemoryArgument) : Int := if m.scale = 0 then 1 else m.scale

theorem factor_pos (known : m.scale ∈ ([0, 1, 2, 4, 8] : List Int)) : 0 < m.factor := by
  have scales : ∀ scale ∈ ([0, 1, 2, 4, 8] : List Int), 0 < if scale = 0 then 1 else scale := by
    decide
  exact scales m.scale known

theorem scale?_eq_ok_iff {n : Nat} :
    m.scale? = .ok n ↔ m.scale ∈ ([0, 1, 2, 4, 8] : List Int) ∧ n = m.factor.toNat := by
  unfold scale? factor scales
  by_cases absent : m.scale = 0
  · simp [absent, eq_comm]
  · by_cases known : m.scale ∈ ([1, 2, 4, 8] : List Int)
    · simp [absent, known, eq_comm]
    · have unknown : m.scale ∉ ([0, 1, 2, 4, 8] : List Int) :=
        fun mem => (List.mem_cons.mp mem).elim absent known
      simp [absent, known, unknown]

theorem exists_dispBits?_iff :
    (∃ bits, m.dispBits? = .ok bits) ↔
      m.size = .smallest ∨ m.size = .disp8 ∨ m.size = .disp32 := by
  unfold dispBits?
  cases m.size <;> simp

theorem operand?_eq_ok_iff {o : Operand} :
    m.operand? = .ok o ↔ (-2 ^ 31 ≤ m.disp ∧ m.disp < 2 ^ 31) ∧
      m.scale ∈ ([0, 1, 2, 4, 8] : List Int) ∧ ∃ bits, m.dispBits? = .ok bits ∧
        o = .mem m.base m.index m.factor.toNat m.disp bits m.width := by
  rw [← fits_signed_iff m.disp 32, operand?]
  by_cases range : fits m.disp 32 true = true
  · simp only [range, Bool.not_true, true_and]
    constructor
    · intro h
      obtain ⟨scale, scaled, h⟩ := bind_eq_ok.mp h
      obtain ⟨bits, sized, h⟩ := bind_eq_ok.mp h
      obtain ⟨known, rfl⟩ := scale?_eq_ok_iff.mp scaled
      cases h
      exact ⟨known, bits, sized, rfl⟩
    · rintro ⟨known, bits, sized, rfl⟩
      rw [scale?_eq_ok_iff.mpr ⟨known, rfl⟩, sized]
      rfl
  · rw [Bool.not_eq_true] at range
    rw [range]
    exact ⟨nofun, fun h => nomatch h.1⟩

/-- The smallest displacement size is the least that holds the displacement. -/
theorem isLeast_of_smallest {bits : Nat} (plain : m.size = .smallest)
    (low : -2 ^ 31 ≤ m.disp) (high : m.disp < 2 ^ 31) (h : m.dispBits? = .ok bits) :
    IsLeast {n | n ∈ ({0, 8, 32} : Set Nat) ∧ SignedRange n m.disp} bits := by
  have chosen : bits = if m.disp = 0 then 0 else if fits m.disp 8 true then 8 else 32 := by
    rw [dispBits?, plain] at h
    exact (Except.ok.inj h).symm
  by_cases zero : m.disp = 0
  · rw [if_pos zero] at chosen
    subst chosen
    exact ⟨⟨by simp, zero⟩, fun n _ => Nat.zero_le n⟩
  rw [if_neg zero] at chosen
  have positive : ∀ n, SignedRange n m.disp → n ≠ 0 := by
    rintro n holds rfl
    exact zero holds
  by_cases byte : fits m.disp 8 true = true
  · rw [if_pos byte] at chosen
    subst chosen
    refine ⟨⟨by simp, (fits_signed_iff m.disp 8).mp byte⟩, ?_⟩
    rintro n ⟨rfl | rfl | rfl, holds⟩
    · exact absurd rfl (positive 0 holds)
    · exact le_rfl
    · decide
  · rw [if_neg byte] at chosen
    subst chosen
    refine ⟨⟨by simp, low, high⟩, ?_⟩
    rintro n ⟨rfl | rfl | rfl, holds⟩
    · exact absurd rfl (positive 0 holds)
    · exact absurd ((fits_signed_iff m.disp 8).mpr holds) byte
    · exact le_rfl

end MemoryArgument

def EncodeError.Plain (e : EncodeError) : Prop := e.refusal.refuser = .check ∧ e.index = none

theorem MemoryArgument.plain_of_operand?_eq_error {m : MemoryArgument} {e : EncodeError}
    (h : m.operand? = .error e) : e.Plain := by
  rw [operand?] at h
  split at h
  · cases h
    exact ⟨rfl, rfl⟩
  · rcases bind_eq_error.mp h with scaled | ⟨scale, _, h⟩
    · unfold scale? at scaled
      split at scaled
      · cases scaled
      · split at scaled <;> cases scaled
        exact ⟨rfl, rfl⟩
    · rcases bind_eq_error.mp h with sized | ⟨bits, _, h⟩
      · unfold dispBits? at sized
        split at sized <;> cases sized
        exact ⟨rfl, rfl⟩
      · cases h

namespace Operand

variable {value width : Int} {unsigned : Bool}

theorem ofImmediate_eq_ok_iff {o : Operand} :
    ofImmediate value width unsigned = .ok o ↔ (width, unsigned) ∈ immediateShapes ∧
      fits value width.toNat (! unsigned) = true ∧ o = .imm value width.toNat (! unsigned) := by
  unfold ofImmediate
  by_cases shape : (width, unsigned) ∈ immediateShapes
  · by_cases range : fits value width.toNat (! unsigned) = true
    · simp [shape, range, eq_comm]
    · simp [shape, range]
  · simp [shape]

theorem plain_of_ofImmediate_eq_error {e : EncodeError}
    (h : ofImmediate value width unsigned = .error e) : e.Plain := by
  unfold ofImmediate at h
  split at h
  · cases h
    exact ⟨rfl, rfl⟩
  · split at h <;> cases h
    exact ⟨rfl, rfl⟩

theorem width_pos_of_shape (shape : (width, unsigned) ∈ immediateShapes) : 0 < width := by
  have widths : ∀ s ∈ immediateShapes, 0 < s.1 := by decide
  exact widths _ shape

theorem fits?_of_shape (value : Int) (shape : (width, unsigned) ∈ immediateShapes) :
    fits? value width (! unsigned) = some (fits value width.toNat (! unsigned)) := by
  have positive := width_pos_of_shape shape
  cases unsigned with
  | false => simp [fits?, Int.not_le.mpr positive]
  | true =>
    by_cases negative : value < 0
    · have outside : fits value width.toNat false = false := by
        rw [← Bool.not_eq_true, fits_unsigned_iff]
        exact fun range => absurd range.1 (Int.not_le.mpr negative)
      simp [fits?, negative, outside]
    · simp [fits?, negative, Int.not_lt.mpr positive.le]

/-- The check of an immediate with a range that a width may lack: it is only asked for when the
shape is known, and then it is there. -/
def ofImmediate? (value width : Int) (unsigned : Bool) : Option (Except EncodeError Operand) :=
  if ! immediateShapes.contains (width, unsigned) then
    some (.error ⟨.immediateShape width unsigned, none⟩)
  else (fits? value width (! unsigned)).map fun held =>
    if held then .ok (.imm value width.toNat (! unsigned))
    else .error ⟨.immediateRange value width, none⟩

theorem ofImmediate?_eq_some (value width : Int) (unsigned : Bool) :
    ofImmediate? value width unsigned = some (ofImmediate value width unsigned) := by
  unfold ofImmediate? ofImmediate
  by_cases shape : (width, unsigned) ∈ immediateShapes
  · have ranged := fits?_of_shape value shape
    cases range : fits value width.toNat (! unsigned) <;> simp [shape, ranged, range]
  · simp [shape]

end Operand

theorem Argument.encodable_imm_iff {value width : Int} {unsigned : Bool} :
    (Argument.imm value width unsigned).Encodable ↔ (width, unsigned) ∈ immediateShapes ∧
      fits value width.toNat (! unsigned) = true := by
  cases unsigned with
  | false =>
    have shapes : (width, false) ∈ immediateShapes ↔ width ∈ ([8, 16, 32] : List Int) := by
      simp [immediateShapes]
    rw [shapes, Bool.not_false, fits_signed_iff]
    constructor
    · intro h
      cases h with
      | signed shape low high => exact ⟨shape, low, high⟩
    · exact fun ⟨shape, low, high⟩ => .signed shape low high
  | true =>
    have shapes : (width, true) ∈ immediateShapes ↔ width ∈ ([8, 16, 32, 64] : List Int) := by
      simp [immediateShapes]
    rw [shapes, Bool.not_true, fits_unsigned_iff]
    constructor
    · intro h
      cases h with
      | unsigned shape low high => exact ⟨shape, low, high⟩
    · exact fun ⟨shape, low, high⟩ => .unsigned shape low high

namespace Operand

inductive Converted : Argument → Operand → Prop
  | register (name : String) : Converted (.reg name) (.reg name)
  | immediate {value width : Int} {unsigned : Bool} (shape : (width, unsigned) ∈ immediateShapes)
      (range : fits value width.toNat (! unsigned) = true) :
      Converted (.imm value width unsigned) (.imm value width.toNat (! unsigned))
  | memory {m : MemoryArgument} (range : -2 ^ 31 ≤ m.disp ∧ m.disp < 2 ^ 31)
      (known : m.scale ∈ ([0, 1, 2, 4, 8] : List Int)) {bits : Nat}
      (sized : m.dispBits? = .ok bits) :
      Converted (.mem m) (.mem m.base m.index m.factor.toNat m.disp bits m.width)

theorem converted_of_ofArgument {a : Argument} {o : Operand} (h : ofArgument a = .ok o) :
    Converted a o := by
  cases a with
  | reg name =>
    cases h
    exact .register name
  | imm value width unsigned =>
    obtain ⟨shape, range, rfl⟩ := ofImmediate_eq_ok_iff.mp (mapError_eq_ok.mp h)
    exact .immediate shape range
  | mem m =>
    obtain ⟨range, known, _, sized, rfl⟩ :=
      MemoryArgument.operand?_eq_ok_iff.mp (mapError_eq_ok.mp h)
    exact .memory range known sized
  | other value => cases h

theorem exists_ofArgument_iff (a : Argument) : (∃ o, ofArgument a = .ok o) ↔ a.Encodable := by
  cases a with
  | reg name => exact iff_of_true ⟨_, rfl⟩ (.register name)
  | imm value width unsigned =>
    simp only [ofArgument, mapError_eq_ok, ofImmediate_eq_ok_iff, Argument.encodable_imm_iff]
    exact ⟨fun ⟨_, shape, range, _⟩ => ⟨shape, range⟩, fun ⟨shape, range⟩ => ⟨_, shape, range, rfl⟩⟩
  | mem m =>
    simp only [ofArgument, mapError_eq_ok, MemoryArgument.operand?_eq_ok_iff]
    constructor
    · rintro ⟨_, ⟨low, high⟩, scale, bits, sized, _⟩
      exact .memory low high scale (MemoryArgument.exists_dispBits?_iff.mp ⟨bits, sized⟩)
    · intro h
      cases h with
      | memory low high scale size =>
        obtain ⟨bits, sized⟩ := MemoryArgument.exists_dispBits?_iff.mpr size
        exact ⟨_, ⟨low, high⟩, scale, bits, sized, rfl⟩
  | other value => exact iff_of_false (fun ⟨_, h⟩ => nomatch h) nofun

theorem ofArgument_eq_error {a : Argument} {e : ArgumentError} (h : ofArgument a = .error e) :
    (∃ value, a = .other value ∧ e = .wrongType value.typeName) ∨
      a.Proper ∧ ∃ error : EncodeError, error.Plain ∧ e = .encode error := by
  cases a with
  | reg name => cases h
  | imm value width unsigned =>
    obtain ⟨error, refused, rfl⟩ := mapError_eq_error.mp h
    exact .inr ⟨trivial, error, plain_of_ofImmediate_eq_error refused, rfl⟩
  | mem m =>
    obtain ⟨error, refused, rfl⟩ := mapError_eq_error.mp h
    exact .inr ⟨trivial, error, MemoryArgument.plain_of_operand?_eq_error refused, rfl⟩
  | other value =>
    cases h
    exact .inl ⟨value, rfl, rfl⟩

theorem refuser_of_refused {a : Argument} {error : EncodeError}
    (h : ofArgument a = .error (.encode error)) : error.refusal.refuser = .check := by
  rcases ofArgument_eq_error h with ⟨_, _, same⟩ | ⟨_, _, plain, same⟩
  · cases same
  · cases same
    exact plain.1

theorem encodable_of_ofArgumentsFrom {args : List Argument} {os : List Operand} {index : Nat}
    (h : ofArgumentsFrom index args = .ok os) : ∀ a ∈ args, a.Encodable := by
  induction args generalizing os index with
  | nil => exact nofun
  | cons a rest ih =>
    rw [ofArgumentsFrom] at h
    obtain ⟨o, first, h⟩ := bind_eq_ok.mp h
    obtain ⟨others, later, _⟩ := bind_eq_ok.mp h
    have encodable : a.Encodable := (exists_ofArgument_iff a).mp ⟨o, mapError_eq_ok.mp first⟩
    exact List.forall_mem_cons.mpr ⟨encodable, ih later⟩

theorem exists_ofArgumentsFrom {args : List Argument} (h : ∀ a ∈ args, a.Encodable)
    (index : Nat) : ∃ os, ofArgumentsFrom index args = .ok os := by
  induction args generalizing index with
  | nil => exact ⟨[], rfl⟩
  | cons a rest ih =>
    obtain ⟨o, first⟩ := (exists_ofArgument_iff a).mpr (h a List.mem_cons_self)
    obtain ⟨os, others⟩ := ih (fun b mem => h b (List.mem_cons_of_mem _ mem)) (index + 1)
    refine ⟨o :: os, ?_⟩
    rw [ofArgumentsFrom, first, others]
    rfl

theorem ofArgumentsFrom_eq_error {args : List Argument} {e : ArgumentError} {index : Nat}
    (h : ofArgumentsFrom index args = .error e) :
    ∃ before a after cause, args = before ++ a :: after ∧ (∀ b ∈ before, b.Encodable) ∧
      ofArgument a = .error cause ∧ e = cause.attributed (index + before.length) := by
  induction args generalizing index with
  | nil => cases h
  | cons a rest ih =>
    rw [ofArgumentsFrom] at h
    rcases bind_eq_error.mp h with here | ⟨o, taken, h⟩
    · obtain ⟨cause, refused, rfl⟩ := mapError_eq_error.mp here
      exact ⟨[], a, rest, cause, rfl, nofun, refused, rfl⟩
    · rcases bind_eq_error.mp h with later | ⟨os, _, h⟩
      · obtain ⟨before, first, after, cause, rfl, accepted, refused, rfl⟩ := ih later
        have encodable : a.Encodable :=
          (exists_ofArgument_iff a).mp ⟨o, mapError_eq_ok.mp taken⟩
        refine ⟨a :: before, first, after, cause, rfl, ?_, refused, ?_⟩
        · exact List.forall_mem_cons.mpr ⟨encodable, accepted⟩
        · rw [List.length_cons, Nat.add_comm before.length, Nat.add_assoc]
      · cases h

end Operand

end AsmFixtures
