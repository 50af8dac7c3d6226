import AsmFixtures.OperandClass.Domain
import AsmFixtures.Proofs.Text.Pieces
import Mathlib.Data.List.Forall2
import Mathlib.Data.List.Nodup

/-! What the Go syntax of operands tells. The texts of a class without vector registers are
all different; a vector register may stand in its class more than once, and its text has its
number. No text holds a comma, which separates the operands of a line. So the entries that
an assembler line was made of can be read off it. -/

namespace AsmFixtures.OperandClass

def vectorClasses : List String := ["xmm", "ymm", "zmm"]

/-- Texts that are all different and that a line keeps apart. -/
structure Listed (texts : List String) : Prop where
  nodup : texts.Nodup
  plain : ∀ text ∈ texts, ',' ∉ text.toList

instance (texts : List String) : Decidable (Listed texts) :=
  decidable_of_iff (texts.Nodup ∧ ∀ text ∈ texts, ',' ∉ text.toList)
    ⟨fun h => ⟨h.1, h.2⟩, fun h => ⟨h.nodup, h.plain⟩⟩

def addressTexts (addresses : List MemoryArgument) : List String :=
  (addresses.mapM fun m => (GoSyntax.memory? m).toOption).getD []

theorem toOption_memory?_width (width : Int) (m : MemoryArgument) :
    (GoSyntax.memory? { m with width := width }).toOption = (GoSyntax.memory? m).toOption := by
  unfold GoSyntax.memory?
  cases m.base with
  | none => rfl
  | some base => rfl

theorem map_goSyntax_memoryDomain (width : Int) (addresses : List MemoryArgument) :
    (memoryDomain width addresses).map Entry.goSyntax = addressTexts addresses := by
  have texts : (memoryEntries? width addresses).toOption.map (List.map Entry.goSyntax) =
      addresses.mapM fun m => (GoSyntax.memory? m).toOption := by
    unfold memoryEntries?
    induction addresses with
    | nil => rfl
    | cons m rest ih =>
      rw [List.mapM_cons, List.mapM_cons, ← ih, ← toOption_memory?_width width m, Entry.memory?]
      cases GoSyntax.memory? { m with width := width } with
      | error cause => rfl
      | ok text =>
        cases rest.mapM (Entry.memory? width) with
        | error cause => rfl
        | ok entries => rfl
  rw [memoryDomain, addressTexts, ← texts]
  cases memoryEntries? width addresses with
  | error cause => rfl
  | ok entries => rfl

theorem listed_memoryDomain (width : Int) {addresses : List MemoryArgument}
    (h : Listed (addressTexts addresses)) :
    Listed ((memoryDomain width addresses).map Entry.goSyntax) := by
  rwa [map_goSyntax_memoryDomain]

theorem listed_addresses : Listed (addressTexts addresses) := by decide +kernel

theorem listed_xmmAddresses : Listed (addressTexts xmmAddresses) := by decide +kernel

theorem listed_ymmAddresses : Listed (addressTexts ymmAddresses) := by decide +kernel

theorem listed_zmmAddresses : Listed (addressTexts zmmAddresses) := by decide +kernel

theorem listed_domains :
    ∀ p ∈ domains, p.1 ∉ vectorClasses → Listed (p.2.map Entry.goSyntax) := by
  simp only [domains, List.forall_mem_cons]
  refine ⟨fun _ => by decide, fun _ => by decide,
    fun _ => by decide +kernel, fun _ => by decide +kernel,
    fun _ => by decide +kernel, fun _ => by decide +kernel,
    fun _ => by decide +kernel, fun _ => by decide +kernel,
    fun _ => by decide +kernel, fun _ => by decide +kernel,
    fun _ => by decide +kernel, fun _ => by decide +kernel,
    fun _ => listed_memoryDomain 8 listed_addresses,
    fun _ => listed_memoryDomain 16 listed_addresses,
    fun _ => listed_memoryDomain 32 listed_addresses,
    fun _ => listed_memoryDomain 64 listed_addresses,
    fun _ => listed_memoryDomain 128 listed_addresses,
    fun _ => listed_memoryDomain 256 listed_addresses,
    fun _ => listed_memoryDomain 512 listed_addresses,
    fun _ => listed_memoryDomain 32 listed_xmmAddresses,
    fun _ => listed_memoryDomain 64 listed_xmmAddresses,
    fun _ => listed_memoryDomain 8 listed_ymmAddresses,
    fun _ => listed_memoryDomain 32 listed_ymmAddresses,
    fun _ => listed_memoryDomain 64 listed_ymmAddresses,
    fun _ => listed_memoryDomain 8 listed_zmmAddresses,
    fun _ => listed_memoryDomain 32 listed_zmmAddresses,
    fun _ => listed_memoryDomain 64 listed_zmmAddresses,
    fun apart => absurd (by decide) apart, fun apart => absurd (by decide) apart,
    fun apart => absurd (by decide) apart, fun _ mem => absurd mem List.not_mem_nil⟩

theorem listed_domain {key : String} (h : key ∉ vectorClasses) :
    Listed ((domain key).map Entry.goSyntax) := by
  unfold domain
  cases found : domains.lookup key with
  | none => exact ⟨List.nodup_nil, fun _ mem => absurd mem List.not_mem_nil⟩
  | some entries =>
    obtain ⟨before, after, split, _⟩ := List.lookup_eq_some_iff.mp found
    have mem : (key, entries) ∈ domains := by simp [split]
    exact listed_domains (key, entries) mem h

/-- The text tells the entry, and a line keeps it apart from the texts of other operands. -/
structure Readable (entries : List Entry) : Prop where
  plain : ∀ e ∈ entries, ',' ∉ e.goSyntax.toList
  told : ∀ e ∈ entries, ∀ other ∈ entries, e.goSyntax = other.goSyntax → e = other

theorem Listed.readable {entries : List Entry} (h : Listed (entries.map Entry.goSyntax)) :
    Readable entries where
  plain _ mem := h.plain _ (List.mem_map_of_mem mem)
  told _ mem _ mem' same := List.inj_on_of_nodup_map h.nodup mem mem' same

theorem toList_vector (letter : String) (n : Nat) :
    (Entry.vector letter n).goSyntax.toList = letter.toList ++ Nat.toDigits 10 n := by
  have digits : toString (n : Int) = String.ofList (Nat.toDigits 10 n) :=
    Nat.repr_eq_ofList_toDigits
  simp [Entry.vector, Entry.register, digits]

theorem vector_injective {letter : String} {k l : Nat}
    (same : (Entry.vector letter k).goSyntax = (Entry.vector letter l).goSyntax) : k = l := by
  have digits := congrArg String.toList same
  rw [toList_vector, toList_vector, List.append_cancel_left_eq] at digits
  simpa using congrArg (Nat.ofDigitChars 10 · 0) digits

theorem readable_vectors {letter : String} (apart : ',' ∉ letter.toList) {numbers : List Int}
    (natural : ∀ n ∈ numbers, 0 ≤ n) : Readable (numbers.map (.vector letter)) where
  plain _ mem comma := by
    obtain ⟨n, hn, rfl⟩ := List.mem_map.mp mem
    obtain ⟨k, rfl⟩ := Int.eq_ofNat_of_zero_le (natural n hn)
    rw [toList_vector] at comma
    rcases List.mem_append.mp comma with inside | digit
    · exact apart inside
    · have isDigit : ','.isDigit = true :=
        Nat.isDigit_of_mem_toDigits (by decide) (by decide) digit
      exact absurd isDigit (by decide)
  told _ mem _ mem' same := by
    obtain ⟨n, hn, rfl⟩ := List.mem_map.mp mem
    obtain ⟨m, hm, rfl⟩ := List.mem_map.mp mem'
    obtain ⟨k, rfl⟩ := Int.eq_ofNat_of_zero_le (natural n hn)
    obtain ⟨l, rfl⟩ := Int.eq_ofNat_of_zero_le (natural m hm)
    rw [vector_injective same]

theorem xmmNumbers_nonneg : ∀ n ∈ xmmNumbers, 0 ≤ n := by decide +kernel

theorem ymmNumbers_nonneg : ∀ n ∈ ymmNumbers, 0 ≤ n := by decide +kernel

theorem zmmNumbers_nonneg : ∀ n ∈ zmmNumbers, 0 ≤ n := by decide +kernel

theorem readable_domain (key : String) : Readable (domain key) := by
  by_cases vector : key ∈ vectorClasses
  · simp only [vectorClasses, List.mem_cons, List.not_mem_nil, or_false] at vector
    rcases vector with rfl | rfl | rfl
    · exact readable_vectors (by decide) xmmNumbers_nonneg
    · exact readable_vectors (by decide) ymmNumbers_nonneg
    · exact readable_vectors (by decide) zmmNumbers_nonneg
  · exact (listed_domain vector).readable

theorem operands_of_line {opcode : String} {operands others : List String}
    (count : operands.length = others.length)
    (plain : ∀ text ∈ operands, ',' ∉ text.toList) (plain' : ∀ text ∈ others, ',' ∉ text.toList)
    (same : GoSyntax.line opcode operands = GoSyntax.line opcode others) :
    operands = others := by
  by_cases empty : operands = []
  · subst empty
    exact (List.eq_nil_of_length_eq_zero count.symm).symm
  · have empty' : others ≠ [] := by
      rintro rfl
      exact empty (List.eq_nil_of_length_eq_zero count)
    rw [GoSyntax.line, GoSyntax.line, if_neg (by simpa using empty), if_neg (by simpa using empty')]
      at same
    have joined : Text.Chars.join [',', ' '] (operands.reverse.map String.toList) =
        Text.Chars.join [',', ' '] (others.reverse.map String.toList) := by
      simpa [Text.join] using congrArg String.toList same
    have pieces := Text.Chars.join_injective (by decide) (by simp [count])
      (by simpa using plain) (by simpa using plain') joined
    have reversed := (List.map_inj_right fun _ _ => String.toList_injective).mp pieces
    exact List.reverse_injective reversed

theorem plain_of_taken {keys : List String} {args : List Entry}
    (taken : List.Forall₂ (fun key e => e ∈ domain key) keys args) :
    ∀ text ∈ args.map (·.goSyntax), ',' ∉ text.toList := by
  induction taken with
  | nil => exact fun _ mem => absurd mem List.not_mem_nil
  | cons first _ ih => exact List.forall_mem_cons.mpr ⟨(readable_domain _).plain _ first, ih⟩

theorem entries_of_line {keys : List String} {opcode : String} {args others : List Entry}
    (taken : List.Forall₂ (fun key e => e ∈ domain key) keys args)
    (taken' : List.Forall₂ (fun key e => e ∈ domain key) keys others)
    (same : GoSyntax.line opcode (args.map (·.goSyntax)) =
      GoSyntax.line opcode (others.map (·.goSyntax))) : args = others := by
  have texts := operands_of_line (by simp [← taken.length_eq, ← taken'.length_eq])
    (plain_of_taken taken) (plain_of_taken taken') same
  clear same
  induction taken generalizing others with
  | nil =>
    cases taken'
    rfl
  | cons first _ ih =>
    cases taken' with
    | cons first' later' =>
      obtain ⟨head, tail⟩ := List.cons.inj texts
      rw [(readable_domain _).told _ first _ first' head, ih later' tail]

end AsmFixtures.OperandClass
