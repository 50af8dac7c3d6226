import AsmFixtures.OperandClass.Domain
import AsmFixtures.Proofs.OperandClass.Domain
import AsmFixtures.Proofs.Operand.Address
import AsmFixtures.Proofs.Text.Blank
import AsmFixtures.Proofs.Text.Decimal

/-! Operands as words. The Go syntax of a register, a byte or an address is a text without blanks
that is not empty. So the only blanks of an assembler line are the spaces that are put between
its words, it has no line break, and it ends with the end of a word. -/

namespace AsmFixtures

open Text.Chars (IsWord)

namespace Text

theorem not_isBlank_of_isAlphanum {c : Char} (letter : c.isAlphanum = true) :
    isBlank c = false := by
  have bounds : 48 ≤ c.toNat ∧ c.toNat ≤ 122 := by
    simp only [Char.isAlphanum, Char.isAlpha, Char.isUpper, Char.isLower, Char.isDigit,
      Bool.or_eq_true, decide_eq_true_eq, UInt32.le_iff_toNat_le, ge_iff_le] at letter
    simp only [Char.toNat]
    grind
  simp only [isBlank]
  grind

theorem not_isBlank_of_mem_toDigits {n : Nat} {c : Char} (mem : c ∈ Nat.toDigits 10 n) :
    isBlank c = false := by
  have digit := Nat.isDigit_of_mem_toDigits (by decide) (by decide) mem
  exact not_isBlank_of_isAlphanum (by simp [Char.isAlphanum, digit])

theorem isWord_decimal (value : Int) : IsWord (decimal value).toList := by
  refine ⟨by simpa using decimal_ne_empty value, fun c mem => ?_⟩
  rw [decimal, String.toList_append, String.toList_ofList] at mem
  rcases List.mem_append.mp mem with sign | digit
  · split at sign
    · obtain rfl : c = '-' := by simpa using sign
      rfl
    · cases sign
  · exact not_isBlank_of_mem_toDigits digit

namespace Chars

instance (s : List Char) : Decidable (IsWord s) :=
  decidable_of_iff (s ≠ [] ∧ s.all (! isBlank ·) = true)
    ⟨fun h => ⟨h.1, by simpa using h.2⟩, fun h => ⟨h.some, by simpa using h.plain⟩⟩

theorem IsWord.append {s t : List Char} (hs : IsWord s) (ht : ∀ c ∈ t, isBlank c = false) :
    IsWord (s ++ t) :=
  ⟨by simp [hs.some], List.forall_mem_append.mpr ⟨hs.plain, ht⟩⟩

theorem ending_join (separator : List Char) {words : List (List Char)} (some : words ≠ [])
    (all : ∀ word ∈ words, IsWord word) :
    join separator words ≠ [] ∧
      ∀ c ∈ (join separator words).getLast?, isBlank c = false := by
  induction words with
  | nil => exact absurd rfl some
  | cons word rest ih =>
    obtain ⟨first, later⟩ := List.forall_mem_cons.mp all
    cases rest with
    | nil => exact ⟨first.some, first.ending⟩
    | cons next others =>
      obtain ⟨behind, ending⟩ := ih (List.cons_ne_nil _ _) later
      rw [join_cons_cons]
      exact ⟨by simp [behind], by rwa [List.getLast?_append_of_ne_nil _ behind]⟩

end Chars

end Text

namespace GoSyntax

theorem Named.isWord {register : Option String} {name : String} (named : Named register name) :
    IsWord name.toList := by
  have shown : ∀ p ∈ registerNames, p.2 ≠ "" := by simp [registerNames]
  obtain ⟨r, rfl, found⟩ := id named
  unfold register? at found
  refine ⟨?_, fun c mem => ?_⟩
  · cases known : registerNames.lookup r with
    | none => simp [known] at found
    | some goName =>
      obtain ⟨before, after, split, _⟩ := List.lookup_eq_some_iff.mp known
      obtain rfl : goName = name := by simpa [known] using found
      simpa using shown (r, goName) (by simp [split])
  · by_contra blank
    exact named.not_mem (Bool.eq_false_iff.mpr (mt Text.not_isBlank_of_isAlphanum blank)) mem

namespace Address

theorem not_isBlank_of_mem_dispText (disp : Int) :
    ∀ c ∈ (dispText disp).toList, Text.isBlank c = false := by
  unfold dispText
  split
  · exact nofun
  · exact (Text.isWord_decimal disp).plain

theorem not_isBlank_of_mem_indexText {factor : Int} {index : Option String}
    {shown : Option (String × Int)} (named : IndexNamed factor index shown) :
    ∀ c ∈ (indexText shown).toList, Text.isBlank c = false := by
  cases named with
  | absent => exact nofun
  | present named =>
    have opens : ∀ c ∈ "(".toList, Text.isBlank c = false := by simp [Text.isBlank]
    have star : ∀ c ∈ "*".toList, Text.isBlank c = false := by simp [Text.isBlank]
    have closes : ∀ c ∈ ")".toList, Text.isBlank c = false := by simp [Text.isBlank]
    simp only [indexText, String.toList_append, List.forall_mem_append]
    exact ⟨⟨⟨⟨opens, named.isWord.plain⟩, star⟩, (Text.isWord_decimal factor).plain⟩, closes⟩

theorem isWord_text {a : Address} {base index : Option String} {factor disp : Int}
    (of : a.Of base index factor disp) : IsWord a.text.toList := by
  have opens : ∀ c ∈ "(".toList, Text.isBlank c = false := by simp [Text.isBlank]
  have closes : ∀ c ∈ ")".toList, Text.isBlank c = false := by simp [Text.isBlank]
  refine ⟨by simp [text], ?_⟩
  simp only [text, String.toList_append, List.forall_mem_append]
  exact ⟨⟨⟨⟨not_isBlank_of_mem_dispText a.disp, opens⟩, of.base.isWord.plain⟩, closes⟩,
    not_isBlank_of_mem_indexText of.index⟩

end Address

theorem isWord_of_memory? {m : MemoryArgument} {text : String} (h : memory? m = .ok text) :
    IsWord text.toList := by
  obtain ⟨a, of, rfl⟩ := memory?_eq_ok_iff.mp h
  exact Address.isWord_text of

/-- The blanks of a line of words are the spaces between them, and there is none at its end. -/
theorem line_of_words {opcode : String} (word : IsWord opcode.toList) {operands : List String}
    (words : ∀ text ∈ operands, IsWord text.toList) :
    (∀ c ∈ (line opcode operands).toList, Text.isBlank c = true → c = ' ') ∧
      ∀ c ∈ (line opcode operands).toList.getLast?, Text.isBlank c = false := by
  have plain : ∀ {s : List Char}, IsWord s → ∀ c ∈ s, Text.isBlank c = true → c = ' ' :=
    fun h c mem blank => by simp [h.plain c mem] at blank
  unfold line
  split
  · exact ⟨plain word, word.ending⟩
  · rename_i several
    have some : operands.reverse.map String.toList ≠ [] := by simpa using several
    have all : ∀ s ∈ operands.reverse.map String.toList, IsWord s := by simpa using words
    obtain ⟨behind, ending⟩ := Text.Chars.ending_join [',', ' '] some all
    have chars : (opcode ++ " " ++ Text.join ", " operands.reverse).toList =
        opcode.toList ++
          ' ' :: Text.Chars.join [',', ' '] (operands.reverse.map String.toList) := by
      simp [Text.join]
    rw [chars]
    refine ⟨fun c mem blank => ?_, ?_⟩
    · rcases List.mem_append.mp mem with front | back
      · exact plain word c front blank
      · rcases List.mem_cons.mp back with rfl | joined
        · rfl
        · rcases Text.Chars.mem_of_mem_join joined with separator | ⟨s, among, inside⟩
          · rcases List.mem_cons.mp separator with rfl | space
            · cases blank
            · exact List.mem_singleton.mp space
          · exact plain (all s among) c inside blank
    · rw [List.getLast?_append_of_ne_nil _ (List.cons_ne_nil _ _),
        List.getLast?_cons_of_ne_nil behind]
      exact ending

end GoSyntax

namespace OperandClass

def AllWords (entries : List Entry) : Prop := ∀ e ∈ entries, IsWord e.goSyntax.toList

instance (entries : List Entry) : Decidable (AllWords entries) :=
  inferInstanceAs (Decidable (∀ e ∈ entries, IsWord e.goSyntax.toList))

theorem allWords_map {α : Type} {f : α → Entry} {values : List α}
    (h : ∀ v ∈ values, IsWord (f v).goSyntax.toList) : AllWords (values.map f) := by
  intro e mem
  obtain ⟨v, hv, rfl⟩ := List.mem_map.mp mem
  exact h v hv

theorem isWord_append_toString {letter : String} (word : IsWord letter.toList) (value : Int) :
    IsWord (letter ++ toString value).toList := by
  rw [String.toList_append, Text.toString_int_eq]
  exact word.append (Text.isWord_decimal value).plain

theorem allWords_masks (numbers : List Int) : AllWords (numbers.map .mask) :=
  allWords_map fun n _ => isWord_append_toString (by decide) n

theorem allWords_bytes (values : List Int) : AllWords (values.map .byte) :=
  allWords_map fun v _ => isWord_append_toString (by decide) v

theorem allWords_vectors {letter : String} (word : IsWord letter.toList) (numbers : List Int) :
    AllWords (numbers.map (.vector letter)) :=
  allWords_map fun n _ => isWord_append_toString word n

theorem allWords_memoryDomain (width : Int) (addresses : List MemoryArgument) :
    AllWords (memoryDomain width addresses) := by
  intro e mem
  obtain ⟨m, _, made⟩ := exists_memory?_of_mem_memoryDomain mem
  unfold Entry.memory? at made
  obtain ⟨text, written, made⟩ := bind_eq_ok.mp made
  cases made
  exact GoSyntax.isWord_of_memory? written

theorem allWords_domains : ∀ p ∈ domains, AllWords p.2 := by
  have no_entries : AllWords [] := fun _ mem => absurd mem List.not_mem_nil
  simp only [domains, List.forall_mem_cons]
  exact ⟨no_entries, no_entries,
    by decide +kernel, by decide +kernel, by decide +kernel, by decide +kernel,
    allWords_masks _, allWords_masks _,
    allWords_bytes _, allWords_bytes _, allWords_bytes _, allWords_bytes _,
    allWords_memoryDomain _ _, allWords_memoryDomain _ _, allWords_memoryDomain _ _,
    allWords_memoryDomain _ _, allWords_memoryDomain _ _, allWords_memoryDomain _ _,
    allWords_memoryDomain _ _, allWords_memoryDomain _ _, allWords_memoryDomain _ _,
    allWords_memoryDomain _ _, allWords_memoryDomain _ _, allWords_memoryDomain _ _,
    allWords_memoryDomain _ _, allWords_memoryDomain _ _, allWords_memoryDomain _ _,
    allWords_vectors (by decide) _, allWords_vectors (by decide) _, allWords_vectors (by decide) _,
    fun _ mem => absurd mem List.not_mem_nil⟩

theorem isWord_of_mem_domain {key : String} {e : Entry} (h : e ∈ domain key) :
    IsWord e.goSyntax.toList := by
  obtain ⟨entries, inTable, mem⟩ := exists_mem_domains_of_mem_domain h
  exact allWords_domains (key, entries) inTable e mem

end OperandClass

end AsmFixtures
