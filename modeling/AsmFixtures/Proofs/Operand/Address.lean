import AsmFixtures.OperandClass.GoSyntax
import AsmFixtures.Proofs.Operand.Acceptance
import AsmFixtures.Proofs.Text.Decimal
import AsmFixtures.Proofs.Text.Pieces
import Mathlib

/-! Memory in the syntax of Go and as an operand of the encoder. Both stand for an address: a
displacement, a base, and an index with its factor. The text of an address can be read in one way
only, so two arguments have one text just when they have one address. A factor that is left out
is one, for the text as for the operand; only an argument without a base is shown as it was
given. -/

namespace AsmFixtures.GoSyntax

/-- What a memory argument points to, with the names that the Go assembler gives the registers. -/
structure Address where
  disp : Int
  base : String
  index : Option (String × Int)

namespace Address

def dispText (disp : Int) : String := if disp = 0 then "" else Text.decimal disp

def indexText : Option (String × Int) → String
  | none => ""
  | some (name, factor) => "(" ++ name ++ "*" ++ Text.decimal factor ++ ")"

def text (a : Address) : String := dispText a.disp ++ "(" ++ a.base ++ ")" ++ indexText a.index

end Address

def Named (register : Option String) (name : String) : Prop :=
  ∃ r, register = some r ∧ register? r = .ok name

inductive IndexNamed (factor : Int) : Option String → Option (String × Int) → Prop
  | absent : IndexNamed factor none none
  | present {register : Option String} {name : String} (named : Named register name) :
      IndexNamed factor register (some (name, factor))

/-- The address that registers, a factor of the index and a displacement make. -/
structure Address.Of (base index : Option String) (factor disp : Int) (a : Address) : Prop where
  disp : a.disp = disp
  base : Named base a.base
  index : IndexNamed factor index a.index

def Denotes (o : Operand) (a : Address) : Prop :=
  ∃ base index, ∃ factor : Nat, ∃ disp bits width,
    o = .mem base index factor disp bits width ∧ a.Of base index factor disp

def SameName (first second : Option String) : Prop :=
  ∃ name, Named first name ∧ Named second name

/-- Displacement, base and index agree, where the registers may differ in their widths. -/
def SameAddress (m other : MemoryArgument) : Prop :=
  m.disp = other.disp ∧ SameName m.base other.base ∧
    (m.index = none ∧ other.index = none ∨
      SameName m.index other.index ∧ m.factor = other.factor)

theorem goName_alphanum : ∀ p ∈ registerNames, ∀ c ∈ p.2.toList, c.isAlphanum := by
  simp [registerNames]

theorem Named.not_mem {register : Option String} {name : String} {c : Char}
    (named : Named register name) (mark : c.isAlphanum = false) : c ∉ name.toList := by
  obtain ⟨r, rfl, named⟩ := named
  unfold register? at named
  cases found : registerNames.lookup r with
  | none => simp [found] at named
  | some goName =>
    simp only [found, Except.ok.injEq] at named
    subst named
    obtain ⟨before, after, split, _⟩ := List.lookup_eq_some_iff.mp found
    intro mem
    have alphanum := goName_alphanum (r, goName) (by simp [split]) c mem
    rw [mark] at alphanum
    cases alphanum

theorem Named.unique {register : Option String} {name other : String}
    (named : Named register name) (named' : Named register other) : name = other := by
  obtain ⟨r, rfl, named⟩ := named
  obtain ⟨_, same, named'⟩ := named'
  cases same
  exact Except.ok.inj (named.symm.trans named')

theorem Named.ne_none {register : Option String} {name : String}
    (named : Named register name) : register ≠ none := by
  obtain ⟨r, rfl, _⟩ := named
  exact Option.some_ne_none r

theorem sameName_iff {first second : Option String} {name other : String}
    (named : Named first name) (named' : Named second other) :
    SameName first second ↔ name = other := by
  constructor
  · rintro ⟨shared, left, right⟩
    rw [named.unique left, named'.unique right]
  · rintro rfl
    exact ⟨name, named, named'⟩

theorem IndexNamed.eq_iff {factor factor' : Int} {index index' : Option String}
    {shown shown' : Option (String × Int)} (named : IndexNamed factor index shown)
    (named' : IndexNamed factor' index' shown') :
    shown = shown' ↔
      index = none ∧ index' = none ∨ SameName index index' ∧ factor = factor' := by
  cases named with
  | absent =>
    cases named' with
    | absent => simp
    | present named' => simp [SameName, Named, named'.ne_none]
  | present named =>
    cases named' with
    | absent => simp [SameName, Named, named.ne_none]
    | present named' => simp [sameName_iff named named', named.ne_none]

namespace Address

variable {a b : Address} {base index base' index' : Option String} {factor disp factor' disp' : Int}

theorem dispText_injective : Function.Injective dispText := by
  intro disp disp' same
  unfold dispText at same
  split at same <;> split at same
  · simp_all
  · exact absurd same.symm (Text.decimal_ne_empty disp')
  · exact absurd same (Text.decimal_ne_empty disp)
  · exact Text.decimal_injective same

theorem not_mem_dispText (disp : Int) : '(' ∉ (dispText disp).toList := by
  unfold dispText
  split
  · simp
  · exact Text.not_mem_decimal rfl (by decide) disp

theorem indexText_injective {shown shown' : Option (String × Int)}
    (named : IndexNamed factor index shown) (named' : IndexNamed factor' index' shown')
    (same : indexText shown = indexText shown') : shown = shown' := by
  cases named with
  | absent =>
    cases named' with
    | absent => rfl
    | present => simp [indexText] at same
  | @present register name named =>
    cases named' with
    | absent => simp [indexText] at same
    | @present register' name' named' =>
      have chars : name.toList ++ '*' :: ((Text.decimal factor).toList ++ [')']) =
          name'.toList ++ '*' :: ((Text.decimal factor').toList ++ [')']) := by
        simpa [indexText] using congrArg String.toList same
      obtain ⟨names, behind⟩ := Text.Chars.append_separator_inj
        (named.not_mem rfl) (named'.not_mem rfl) chars
      have factors := String.toList_injective (List.append_cancel_right behind)
      rw [String.toList_injective names, Text.decimal_injective factors]

/-- The first parenthesis ends the displacement, and the one that closes it the base. -/
theorem text_injective (of : a.Of base index factor disp) (of' : b.Of base' index' factor' disp')
    (same : a.text = b.text) : a = b := by
  obtain ⟨_, named, indexed⟩ := of
  obtain ⟨_, named', indexed'⟩ := of'
  have chars : (dispText a.disp).toList ++ '(' ::
        (a.base.toList ++ ')' :: (indexText a.index).toList) =
      (dispText b.disp).toList ++ '(' ::
        (b.base.toList ++ ')' :: (indexText b.index).toList) := by
    have lists := congrArg String.toList same
    simp only [text, String.toList_append, List.append_assoc] at lists
    exact lists
  obtain ⟨disps, behind⟩ := Text.Chars.append_separator_inj
    (not_mem_dispText a.disp) (not_mem_dispText b.disp) chars
  obtain ⟨bases, behind⟩ := Text.Chars.append_separator_inj
    (named.not_mem rfl) (named'.not_mem rfl) behind
  rw [Address.mk.injEq]
  exact ⟨dispText_injective (String.toList_injective disps), String.toList_injective bases,
    indexText_injective indexed indexed' (String.toList_injective behind)⟩

end Address

variable {m other : MemoryArgument} {a b : Address}

theorem shownDisp_eq_dispText (disp : Int) : shownDisp disp = Address.dispText disp := by
  rw [shownDisp, Address.dispText, Text.toString_int_eq]

theorem text_without_index (disp : Int) (base : String) :
    shownDisp disp ++ "(" ++ base ++ ")" = Address.text ⟨disp, base, none⟩ := by
  rw [Address.text, Address.indexText, String.append_empty, shownDisp_eq_dispText]

theorem text_with_index (disp factor : Int) (base name : String) :
    shownDisp disp ++ "(" ++ base ++ ")(" ++ name ++ "*" ++ toString factor ++ ")" =
      Address.text ⟨disp, base, some (name, factor)⟩ := by
  have marks : ")(" = ")" ++ "(" := rfl
  rw [Address.text, Address.indexText, shownDisp_eq_dispText, Text.toString_int_eq, marks]
  simp only [String.append_assoc]

theorem memory?_eq_ok_iff {text : String} :
    memory? m = .ok text ↔
      ∃ a : Address, a.Of m.base m.index m.factor m.disp ∧ text = a.text := by
  unfold memory?
  constructor
  · intro h
    cases base : m.base with
    | none => simp [base] at h
    | some register =>
      simp only [base] at h
      obtain ⟨name, named, h⟩ := bind_eq_ok.mp h
      cases index : m.index with
      | none =>
        simp only [index] at h
        cases h
        refine ⟨⟨m.disp, name, none⟩, ⟨rfl, ⟨register, rfl, named⟩, .absent⟩, ?_⟩
        exact text_without_index m.disp name
      | some indexRegister =>
        simp only [index] at h
        obtain ⟨indexName, indexNamed, h⟩ := bind_eq_ok.mp h
        cases h
        refine ⟨⟨m.disp, name, some (indexName, m.factor)⟩,
          ⟨rfl, ⟨register, rfl, named⟩, .present ⟨indexRegister, rfl, indexNamed⟩⟩, ?_⟩
        exact text_with_index m.disp m.factor name indexName
  · rintro ⟨⟨disp, name, shown⟩, ⟨rfl, ⟨register, base, named⟩, indexed⟩, rfl⟩
    dsimp only at named indexed
    generalize m.index = index at indexed ⊢
    cases indexed with
    | absent =>
      simp only [base, named, bind, Except.bind, pure, Except.pure]
      exact congrArg Except.ok (text_without_index m.disp name)
    | present indexNamed =>
      obtain ⟨indexRegister, rfl, indexNamed⟩ := indexNamed
      simp only [base, named, indexNamed, bind, Except.bind, pure, Except.pure]
      exact congrArg Except.ok (text_with_index m.disp m.factor name _)

theorem denotes_of_operand? {o : Operand} (of : a.Of m.base m.index m.factor m.disp)
    (converted : m.operand? = .ok o) : Denotes o a := by
  obtain ⟨_, known, bits, _, rfl⟩ := MemoryArgument.operand?_eq_ok_iff.mp converted
  refine ⟨m.base, m.index, m.factor.toNat, m.disp, bits, m.width, rfl, ?_⟩
  rwa [Int.toNat_of_nonneg (MemoryArgument.factor_pos known).le]

theorem eq_iff_sameAddress (of : a.Of m.base m.index m.factor m.disp)
    (of' : b.Of other.base other.index other.factor other.disp) :
    a = b ↔ SameAddress m other := by
  unfold SameAddress
  rw [sameName_iff of.base of'.base, ← of.index.eq_iff of'.index, ← of.disp, ← of'.disp,
    ← Address.mk.injEq]

theorem message_noBase (m : MemoryArgument) : ∃ front back, ∀ scale : Int,
    (ConfigError.noBase { m with scale := scale }).message =
      front ++ Text.decimal scale ++ back := by
  refine ⟨"memory argument without base: " ++ ("MemArgument(base=" ++
    MemoryArgument.registerLiteral m.base ++ ", index=" ++
    MemoryArgument.registerLiteral m.index ++ ", scale="), ", disp=" ++ toString m.disp ++
    ", disp_width=" ++ m.size.literal ++ ", width=" ++ toString m.width ++ ")", ?_⟩
  intro scale
  unfold ConfigError.message MemoryArgument.literal
  rw [← Text.toString_int_eq]
  simp only [String.append_assoc]

/-- The text is that of the address the operand points to, two texts are equal just when the
addresses are, and a factor of one need not be given. Without a base there is no text, and the
error shows the argument with the scale it came with. -/
theorem text_denotes_operand_address (m other : MemoryArgument) :
    (∀ text o, memory? m = .ok text → m.operand? = .ok o →
      ∃ a : Address, Denotes o a ∧ text = a.text) ∧
    (∀ text text', memory? m = .ok text → memory? other = .ok text' →
      (text = text' ↔ SameAddress m other)) ∧
    MemoryArgument.operand? { m with scale := 0 } = MemoryArgument.operand? { m with scale := 1 } ∧
    (∀ register, memory? { m with base := some register, scale := 0 } =
      memory? { m with base := some register, scale := 1 }) ∧
    ∃ front back, ∀ scale,
      memory? { m with base := none, scale := scale } =
        .error (.noBase { m with base := none, scale := scale }) ∧
      (ConfigError.noBase { m with base := none, scale := scale }).message =
        front ++ Text.decimal scale ++ back := by
  refine ⟨?_, ?_, rfl, fun _ => rfl, ?_⟩
  · intro text o written converted
    obtain ⟨a, of, rfl⟩ := memory?_eq_ok_iff.mp written
    exact ⟨a, denotes_of_operand? of converted, rfl⟩
  · intro text text' written written'
    obtain ⟨a, of, rfl⟩ := memory?_eq_ok_iff.mp written
    obtain ⟨b, of', rfl⟩ := memory?_eq_ok_iff.mp written'
    rw [← eq_iff_sameAddress of of']
    exact ⟨Address.text_injective of of', congrArg Address.text⟩
  · obtain ⟨front, back, shown⟩ := message_noBase { m with base := none }
    exact ⟨front, back, fun scale => ⟨rfl, shown scale⟩⟩

/-- Registers of another width and a scale that is written out make no difference to the text. -/
theorem text_denotes_operand_address_of_default_scale :
    let m : MemoryArgument :=
      { base := some "EBP", index := some "RSI", disp := -17, width := 32 }
    let other : MemoryArgument :=
      { base := some "RBP", index := some "ESI", scale := 1, disp := -17 }
    let o : Operand := .mem (some "EBP") (some "RSI") 1 (-17) 8 32
    memory? m = .ok "-17(BP)(SI*1)" ∧ memory? other = .ok "-17(BP)(SI*1)" ∧
      m.operand? = .ok o ∧ (∃ a : Address, Denotes o a ∧ "-17(BP)(SI*1)" = a.text) ∧
      SameAddress m other := by
  intro m other o
  have written : memory? m = .ok "-17(BP)(SI*1)" := by cbv
  have written' : memory? other = .ok "-17(BP)(SI*1)" := by cbv
  have converted : m.operand? = .ok o := by cbv
  obtain ⟨denoted, same, _⟩ := text_denotes_operand_address m other
  exact ⟨written, written', converted, denoted _ o written converted,
    (same _ _ written written').mp rfl⟩

/-- The scale that was given shows in the error for want of a base. -/
theorem message_shows_scale :
    (memory? { index := some "RSI", scale := 0 }).mapError ConfigError.message ≠
      (memory? { index := some "RSI", scale := 1 }).mapError ConfigError.message := by
  intro same
  obtain ⟨front, back, shown⟩ := message_noBase { index := some "RSI" }
  have texts : front ++ Text.decimal 0 ++ back = front ++ Text.decimal 1 ++ back :=
    (shown 0).symm.trans ((Except.error.inj same).trans (shown 1))
  have scales : Text.decimal 0 = Text.decimal 1 :=
    String.append_right_inj front |>.mp ((String.append_left_inj back).mp texts)
  exact absurd (Text.decimal_injective scales) (by decide)

end AsmFixtures.GoSyntax
