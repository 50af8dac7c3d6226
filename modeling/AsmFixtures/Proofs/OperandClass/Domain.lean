import AsmFixtures.OperandClass.Domain
import AsmFixtures.Proofs.Operand
import Mathlib.Data.List.Forall2

/-! What the tables supply. Every argument in a domain is a register, an unsigned byte, or
memory with a displacement of 32 bits, a scale that the address form knows and a size left
open. So no check of operands ever refuses one. -/

namespace AsmFixtures.OperandClass

def AllSupplied (entries : List Entry) : Prop := ∀ e ∈ entries, e.argument.Supplied

theorem allSupplied_map {α : Type} {f : α → Entry} {values : List α}
    (h : ∀ v ∈ values, (f v).argument.Supplied) : AllSupplied (values.map f) := by
  intro e mem
  obtain ⟨v, hv, rfl⟩ := List.mem_map.mp mem
  exact h v hv

theorem allSupplied_registers (names : List (String × String)) :
    AllSupplied (names.map fun (goName, name) => .register goName name) :=
  allSupplied_map fun (_, name) _ => .register name

theorem allSupplied_masks (numbers : List Int) : AllSupplied (numbers.map .mask) :=
  allSupplied_map fun _ _ => .register _

theorem allSupplied_vectors (letter : String) (numbers : List Int) :
    AllSupplied (numbers.map (.vector letter)) :=
  allSupplied_map fun _ _ => .register _

theorem allSupplied_blocks (goName name : String) : AllSupplied (blockEntries goName name) :=
  allSupplied_map fun _ _ => .register _

theorem allSupplied_bytes {values : List Int} (h : ∀ v ∈ values, fits v 8 false = true) :
    AllSupplied (values.map .byte) :=
  allSupplied_map fun v hv => .byte (h v hv)

theorem argument_of_memory? {width : Int} {m : MemoryArgument} {e : Entry}
    (h : Entry.memory? width m = .ok e) : e.argument = .mem { m with width := width } := by
  unfold Entry.memory? at h
  obtain ⟨text, _, h⟩ := bind_eq_ok.mp h
  cases h
  rfl

theorem supplied_of_memory? {width : Int} {m : MemoryArgument} {e : Entry} (plain : m.Plain)
    (h : Entry.memory? width m = .ok e) : e.argument.Supplied := by
  rw [argument_of_memory? h]
  exact .memory ⟨plain.disp_fits, plain.scale_known, plain.size_open⟩

theorem forall₂_of_memoryEntries? {width : Int} {addresses : List MemoryArgument}
    {entries : List Entry} (h : memoryEntries? width addresses = .ok entries) :
    List.Forall₂ (fun m e => Entry.memory? width m = .ok e) addresses entries := by
  unfold memoryEntries? at h
  induction addresses generalizing entries with
  | nil =>
    obtain rfl : [] = entries := by simpa [pure, Except.pure] using h
    exact .nil
  | cons m rest ih =>
    rw [List.mapM_cons] at h
    obtain ⟨e, first, h⟩ := bind_eq_ok.mp h
    obtain ⟨es, others, h⟩ := bind_eq_ok.mp h
    cases h
    exact .cons first (ih others)

theorem exists_memory?_of_mem_memoryDomain {width : Int} {addresses : List MemoryArgument}
    {e : Entry} (mem : e ∈ memoryDomain width addresses) :
    ∃ m ∈ addresses, Entry.memory? width m = .ok e := by
  unfold memoryDomain at mem
  cases made : memoryEntries? width addresses with
  | error cause =>
    rw [made] at mem
    cases mem
  | ok entries =>
    rw [made] at mem
    exact exists_of_forall₂ (forall₂_of_memoryEntries? made) mem

theorem allSupplied_memoryDomain (width : Int) {addresses : List MemoryArgument}
    (plain : ∀ m ∈ addresses, m.Plain) : AllSupplied (memoryDomain width addresses) := by
  intro e mem
  obtain ⟨m, inList, written⟩ := exists_memory?_of_mem_memoryDomain mem
  exact supplied_of_memory? (plain m inList) written

theorem plain_addresses : ∀ m ∈ addresses, m.Plain := by decide +kernel

theorem plain_xmmAddresses : ∀ m ∈ xmmAddresses, m.Plain := by decide +kernel

theorem plain_ymmAddresses : ∀ m ∈ ymmAddresses, m.Plain := by decide +kernel

theorem plain_zmmAddresses : ∀ m ∈ zmmAddresses, m.Plain := by decide +kernel

/-- One line for each class, in the order of the table. -/
theorem allSupplied_domains : ∀ p ∈ domains, AllSupplied p.2 := by
  have no_entries : AllSupplied [] := fun _ mem => absurd mem List.not_mem_nil
  simp only [domains, List.forall_mem_cons]
  exact ⟨no_entries, no_entries,
    allSupplied_registers [("AX", "EAX"), ("R9", "R9D"), ("CX", "ECX"), ("SP", "ESP"),
      ("R14", "R14D")],
    allSupplied_registers [("DX", "RDX"), ("BP", "RBP"), ("R10", "R10"), ("CX", "RCX"),
      ("R9", "R9"), ("R13", "R13")],
    allSupplied_blocks _ _, allSupplied_blocks _ _,
    allSupplied_masks _, allSupplied_masks _,
    allSupplied_bytes (by decide), allSupplied_bytes (by decide),
    allSupplied_bytes (by decide), allSupplied_bytes (by decide),
    allSupplied_memoryDomain _ plain_addresses, allSupplied_memoryDomain _ plain_addresses,
    allSupplied_memoryDomain _ plain_addresses, allSupplied_memoryDomain _ plain_addresses,
    allSupplied_memoryDomain _ plain_addresses, allSupplied_memoryDomain _ plain_addresses,
    allSupplied_memoryDomain _ plain_addresses,
    allSupplied_memoryDomain _ plain_xmmAddresses, allSupplied_memoryDomain _ plain_xmmAddresses,
    allSupplied_memoryDomain _ plain_ymmAddresses, allSupplied_memoryDomain _ plain_ymmAddresses,
    allSupplied_memoryDomain _ plain_ymmAddresses,
    allSupplied_memoryDomain _ plain_zmmAddresses, allSupplied_memoryDomain _ plain_zmmAddresses,
    allSupplied_memoryDomain _ plain_zmmAddresses,
    allSupplied_vectors _ _, allSupplied_vectors _ _, allSupplied_vectors _ _,
    fun _ mem => absurd mem List.not_mem_nil⟩

theorem exists_mem_domains_of_mem_domain {key : String} {e : Entry} (h : e ∈ domain key) :
    ∃ entries, (key, entries) ∈ domains ∧ e ∈ entries := by
  unfold domain at h
  cases found : domains.lookup key with
  | none => simp [found] at h
  | some entries =>
    obtain ⟨before, after, split, _⟩ := List.lookup_eq_some_iff.mp found
    exact ⟨entries, by simp [split], by simpa [found] using h⟩

theorem supplied_of_mem_domain {key : String} {e : Entry} (h : e ∈ domain key) :
    e.argument.Supplied := by
  obtain ⟨entries, inTable, mem⟩ := exists_mem_domains_of_mem_domain h
  exact allSupplied_domains (key, entries) inTable e mem

end AsmFixtures.OperandClass
