import AsmFixtures.Proofs.Database.Forms
import AsmFixtures.Proofs.Text.Blank
import AsmFixtures.Proofs.Text.Pieces

/-! The printed form. A form is printed as its opcode and its tokens, with a comma and a blank
between them and no blank at the end. No token holds a comma, and none begins or ends with a
blank, so the text read as Intel syntax gives the opcode and the tokens back. Only a single empty
token is lost, for it prints as no token does. -/

namespace AsmFixtures

namespace OperandText

open Text.Chars (Tight)

theorem tight_braced (inside : List Char) : Tight (Decorated.braced inside) := by
  have opens : Text.isBlank '\x7b' = false := rfl
  have closes : Text.isBlank '\x7d' = false := rfl
  have last : (Decorated.braced inside).getLast? = some '\x7d' := by
    rw [Decorated.braced, List.getLast?_concat]
  exact ⟨by simpa [Decorated.braced] using opens, by simpa [last] using closes⟩

theorem tight_flatMap_braced (decorations : List (List Char)) :
    Tight (decorations.flatMap Decorated.braced) := by
  induction decorations with
  | nil => exact ⟨nofun, nofun⟩
  | cons inside rest ih => exact (tight_braced inside).append ih

theorem tight_of_mem_slots {operand token : String} {slot : List String}
    (mem : slot ∈ slots operand) (chosen : token ∈ slot) : Tight token.toList := by
  rw [slots_eq, maskSlot] at mem
  rcases List.mem_cons.mp mem with rfl | mask
  · simp only [alternatives, Decorated.alternatives, List.map_map, List.mem_map,
      Function.comp_apply] at chosen
    obtain ⟨alternative, _, rfl⟩ := chosen
    rw [String.toList_ofList]
    exact (Text.Chars.tight_trim alternative).append (tight_flatMap_braced _)
  · split at mask
    · obtain rfl := List.mem_singleton.mp mask
      obtain rfl := List.mem_singleton.mp chosen
      exact tight_braced ['k']
    · cases mask

theorem forall_mem_of_mem_slots {p : Char → Prop} (opens : p '\x7b') (closes : p '\x7d')
    (letter : p 'k') {operand token : String} {slot : List String}
    (all : ∀ c ∈ operand.toList, p c) (mem : slot ∈ slots operand) (chosen : token ∈ slot) :
    ∀ c ∈ token.toList, p c := by
  obtain ⟨plain, decorations⟩ := @Decorated.forall_mem_scan p opens none nofun _ all
  have braced : ∀ inside : List Char, (∀ c ∈ inside, p c) → ∀ c ∈ Decorated.braced inside, p c := by
    intro inside within
    simpa [Decorated.braced, opens, closes, or_imp, forall_and] using within
  rw [slots_eq, maskSlot] at mem
  rcases List.mem_cons.mp mem with rfl | mask
  · simp only [alternatives, Decorated.alternatives, List.map_map, List.mem_map,
      Function.comp_apply] at chosen
    obtain ⟨alternative, cut, rfl⟩ := chosen
    rw [String.toList_ofList]
    intro c inToken
    rcases List.mem_append.mp inToken with front | suffix
    · have kept : (Text.Chars.trim alternative).Sublist
          (Decorated.ofText operand.toList).plain :=
        (Text.Chars.trim_sublist alternative).trans
          ((Text.Chars.sublist_of_mem_split cut).trans (Text.Chars.trim_sublist _))
      exact plain c (kept.subset front)
    · obtain ⟨inside, kept, within⟩ := List.mem_flatMap.mp suffix
      exact braced inside (decorations inside (List.mem_filter.mp kept).1) c within
  · split at mask
    · obtain rfl := List.mem_singleton.mp mask
      obtain rfl := List.mem_singleton.mp chosen
      exact braced ['k'] (by simpa using letter)
    · cases mask

end OperandText

namespace Text.Chars

variable {separator : Char}

theorem not_mem_of_mem_split {s piece : List Char} (mem : piece ∈ split separator s) :
    separator ∉ piece := by
  induction s generalizing piece with
  | nil => simp_all
  | cons c rest ih =>
    rw [split_cons] at mem
    split at mem
    · rcases List.mem_cons.mp mem with rfl | later
      · exact List.not_mem_nil
      · exact ih later
    · rename_i apart
      obtain ⟨first, others, cut⟩ := List.exists_cons_of_ne_nil (split_ne_nil separator rest)
      rw [cut] at mem ih
      rcases List.mem_cons.mp mem with rfl | later
      · simpa [Ne.symm apart] using ih List.mem_cons_self
      · exact ih (List.mem_cons_of_mem _ later)

theorem map_trim_split_trimEnd (apart : isBlank separator = false) (s : List Char) :
    (split separator (trimEnd s)).map trim = (split separator s).map trim := by
  have parts : trimEnd s ++ s.rtakeWhile isBlank = s := by
    rw [trimEnd_eq_rdropWhile, List.rdropWhile_append_rtakeWhile]
  have blank : ∀ c ∈ s.rtakeWhile isBlank, isBlank c = true := fun c => List.mem_rtakeWhile_imp
  have plain : separator ∉ s.rtakeWhile isBlank := fun mem => by
    simpa [apart] using blank separator mem
  obtain ⟨front, last, short, long⟩ := exists_split_append (trimEnd s) plain
  rw [parts] at long
  rw [short, long]
  simp [trim_append_blanks last blank]

theorem map_trim_split_join {tokens : List (List Char)} (some : tokens ≠ [])
    (plain : ∀ t ∈ tokens, ',' ∉ t) (tight : ∀ t ∈ tokens, Tight t) :
    (split ',' (join [',', ' '] tokens)).map trim = tokens := by
  obtain ⟨token, rest, rfl⟩ := List.exists_cons_of_ne_nil some
  obtain ⟨first, later⟩ := List.forall_mem_cons.mp tight
  have apart : ',' ∉ [' '] := by decide
  rw [split_join apart plain, List.map_cons, List.map_map, first.trim_eq]
  congr 1
  refine (List.map_congr_left fun t mem => ?_).trans rest.map_id'
  exact (trim_cons_of_isBlank rfl t).trans (later t mem).trim_eq

/-- Joined tokens do not begin with a blank, and are not blank unless there is one empty token. -/
theorem opening_join {token : List Char} {rest : List (List Char)} (tight : Tight token)
    (some : token :: rest ≠ [[]]) :
    join [',', ' '] (token :: rest) ≠ [] ∧
      ∀ c ∈ (join [',', ' '] (token :: rest)).head?, isBlank c = false := by
  cases rest with
  | nil => exact ⟨by simpa [join] using some, tight.opening⟩
  | cons next others =>
    rw [join_cons_cons, List.append_assoc]
    cases token with
    | nil => exact ⟨by simp, by simp [show isBlank ',' = false from rfl]⟩
    | cons c front => exact ⟨by simp, by simpa using tight.opening⟩

theorem trimEnd_append_body {body : List Char} (some : trimEnd body ≠ []) (word : List Char) :
    trimEnd (word ++ ' ' :: body) = word ++ ' ' :: trimEnd body := by
  have behind : trimEnd (' ' :: body) = ' ' :: trimEnd body := by
    simpa [some] using trimEnd_append [' '] body
  simp [trimEnd_append, behind]

theorem trimEnd_append_blank {word : List Char} (h : IsWord word) :
    trimEnd (word ++ [' ']) = word := by
  have blank : trimEnd [' '] = [] := rfl
  rw [trimEnd_append, if_pos blank, trimEnd_of_ending h.ending]

theorem firstWord?_printed {word : List Char} (h : IsWord word) {tokens : List (List Char)}
    (tight : ∀ t ∈ tokens, Tight t) (some : tokens ≠ [[]]) :
    firstWord? (trimEnd (word ++ ' ' :: join [',', ' '] tokens)) =
      .some (word, if tokens = [] then none else .some (trimEnd (join [',', ' '] tokens))) := by
  cases tokens with
  | nil => rw [join, trimEnd_append_blank h, h.firstWord?_self, if_pos rfl]
  | cons token rest =>
    obtain ⟨nonempty, opening⟩ := opening_join (tight token List.mem_cons_self) some
    have kept : trimEnd (join [',', ' '] (token :: rest)) ≠ [] := by
      obtain ⟨c, body, same⟩ := List.exists_cons_of_ne_nil nonempty
      rw [same] at opening ⊢
      intro nothing
      have blank := (trimEnd_eq_nil_iff _).mp nothing c List.mem_cons_self
      simp [opening c rfl] at blank
    rw [trimEnd_append_body kept, h.firstWord?_append kept (opening_trimEnd opening),
      if_neg (List.cons_ne_nil token rest)]

end Text.Chars

namespace Record

open Text.Chars (IsWord Tight)

/-- The record whose Intel syntax is an opcode with tokens has this opcode and these tokens. -/
theorem intelOpcode?_and_intelArgs_of_printed {r : Record} {opcode : String}
    {tokens : List String} (word : IsWord opcode.toList)
    (tight : ∀ t ∈ tokens, Tight t.toList) (plain : ∀ t ∈ tokens, ',' ∉ t.toList)
    (some : tokens ≠ [""])
    (printed : r.intel = Text.trimEnd (opcode ++ " " ++ Text.join ", " tokens)) :
    r.intelOpcode? = .some opcode ∧ r.intelArgs = tokens := by
  have chars : r.intel.toList = Text.Chars.trimEnd
      (opcode.toList ++ ' ' :: Text.Chars.join [',', ' '] (tokens.map String.toList)) := by
    simp [printed, Text.join]
  have tight' : ∀ t ∈ tokens.map String.toList, Tight t := by simpa using tight
  have several : tokens.map String.toList ≠ [[]] := by simpa using some
  have words := Text.Chars.firstWord?_printed word tight' several
  rw [← chars] at words
  refine ⟨by simp [intelOpcode?, Text.firstWord?, words], ?_⟩
  by_cases none : tokens = []
  · simp [intelArgs, Text.afterFirstWord?, words, none]
  · have several : tokens.map String.toList ≠ [] := by simpa using none
    have cut := Text.Chars.map_trim_split_join several (by simpa using plain) tight'
    rw [← Text.Chars.map_trim_split_trimEnd rfl] at cut
    have read : r.intelArgs = (((Text.Chars.split ',' (Text.Chars.trimEnd
        (Text.Chars.join [',', ' '] (tokens.map String.toList)))).map
          Text.Chars.trim).map String.ofList) := by
      simp [intelArgs, Text.afterFirstWord?, words, none, Text.split, Text.trim,
        Function.comp_def]
    rw [read, cut]
    simp [Function.comp_def]

theorem exists_intelOpcode? {r : Record} (text : ¬ Text.AllBlank r.intel) :
    ∃ opcode, r.intelOpcode? = .some opcode :=
  Option.ne_none_iff_exists'.mp (mt (Text.firstWord?_eq_none_iff r.intel).mp text)

theorem not_mem_of_mem_intelArgs {r : Record} {operand : String} (mem : operand ∈ r.intelArgs) :
    ',' ∉ operand.toList := by
  unfold intelArgs at mem
  split at mem
  · cases mem
  · simp only [Text.split, List.map_map, List.mem_map, Function.comp_apply] at mem
    obtain ⟨piece, cut, rfl⟩ := mem
    intro comma
    rw [Text.toList_trim, String.toList_ofList] at comma
    exact Text.Chars.not_mem_of_mem_split cut ((Text.Chars.trim_sublist piece).subset comma)

theorem tight_of_mem_args {r : Record} {f : Form} (mem : f ∈ r.forms) :
    ∀ token ∈ f.args, Tight token.toList ∧ ',' ∉ token.toList := by
  intro token chosen
  obtain ⟨slot, inSlots, inSlot⟩ := exists_domain_of_mem (args_mem_choices mem) chosen
  obtain ⟨operand, inArgs, ofOperand⟩ := List.mem_flatMap.mp inSlots
  have plain : ∀ c ∈ operand.toList, c ≠ ',' := fun c within same =>
    not_mem_of_mem_intelArgs inArgs (same ▸ within)
  refine ⟨OperandText.tight_of_mem_slots ofOperand inSlot, fun comma => ?_⟩
  exact OperandText.forall_mem_of_mem_slots (by decide) (by decide) (by decide) plain ofOperand
    inSlot ',' comma rfl

end Record

namespace Form

theorem text?_reads_back {r : Record} (text : ¬ Text.AllBlank r.intel) {f : Form}
    (mem : f ∈ r.forms) (some : f.args ≠ [""]) :
    ∃ printed, f.text? = .some printed ∧ ∀ again : Record, again.intel = printed →
      again.intelOpcode? = f.record.intelOpcode? ∧ again.intelArgs = f.args := by
  obtain ⟨opcode, named⟩ := Record.exists_intelOpcode? text
  rw [← record_of_mem_forms mem] at named
  have tokens := Record.tight_of_mem_args mem
  refine ⟨_, by rw [text?, named, Option.map_some], fun again same => ?_⟩
  rw [named]
  exact Record.intelOpcode?_and_intelArgs_of_printed (Text.isWord_of_firstWord? named)
    (fun t chosen => (tokens t chosen).1) (fun t chosen => (tokens t chosen).2) some same

/-- The printed form identifies the form. Read as the Intel syntax of a record it gives the opcode
and the tokens of the form, so forms that print alike agree in both. -/
theorem text_identifies_form :
    (∀ r : Record, ¬ Text.AllBlank r.intel → ∀ f ∈ r.forms, f.args ≠ [""] →
      ∃ printed, f.text? = some printed ∧ ∀ again : Record, again.intel = printed →
        again.intelOpcode? = f.record.intelOpcode? ∧ again.intelArgs = f.args) ∧
    ∀ r r' : Record, ¬ Text.AllBlank r.intel → ¬ Text.AllBlank r'.intel →
      ∀ f ∈ r.forms, ∀ f' ∈ r'.forms, f.args ≠ [""] → f'.args ≠ [""] → f.text? = f'.text? →
        f.record.intelOpcode? = f'.record.intelOpcode? ∧ f.args = f'.args := by
  refine ⟨fun r text f mem some => text?_reads_back text mem some, ?_⟩
  intro r r' text text' f mem f' mem' several several' same
  obtain ⟨printed, shown, read⟩ := text?_reads_back text mem several
  obtain ⟨printed', shown', read'⟩ := text?_reads_back text' mem' several'
  obtain rfl : printed = printed' := Option.some.inj (shown.symm.trans (same.trans shown'))
  obtain ⟨opcode, tokens⟩ := read ⟨printed, "", "", "", "", "", "", "", "", "", ""⟩ rfl
  obtain ⟨opcode', tokens'⟩ := read' ⟨printed, "", "", "", "", "", "", "", "", "", ""⟩ rfl
  exact ⟨opcode.symm.trans opcode', tokens.symm.trans tokens'⟩

/-- Empty tokens, a blank inside a token and a comma at the end come back, and two records whose
Intel syntax is spaced differently print this form alike. -/
theorem text_identifies_form_of_empty_tokens :
    let r : Record :=
      { intel := "VADD\tzmm1\x7bk\x7d\x7bz\x7d,, m 512 / m64\x7ber\x7d ,", go := "VADD" }
    let r' : Record := { intel := " VADD zmm1\x7bk\x7d, ,m 512\x7ber\x7d, ", go := "ADD" }
    let args := ["zmm1", "\x7bk\x7d", "", "m 512\x7ber\x7d", ""]
    let f : Form := ⟨r, args⟩
    let f' : Form := ⟨r', args⟩
    f ∈ r.forms ∧ f' ∈ r'.forms ∧ f.text? = f'.text? ∧
      (∃ printed, f.text? = some printed ∧ ∀ again : Record, again.intel = printed →
        again.intelOpcode? = r.intelOpcode? ∧ again.intelArgs = args) ∧
      r.intelOpcode? = r'.intelOpcode? := by
  intro r r' args f f'
  have mem : f ∈ r.forms := by decide +kernel
  have mem' : f' ∈ r'.forms := by decide +kernel
  have text : ¬ Text.AllBlank r.intel := by decide +kernel
  have text' : ¬ Text.AllBlank r'.intel := by decide +kernel
  have several : args ≠ [""] := by decide
  have same : f.text? = f'.text? := by decide +kernel
  exact ⟨mem, mem', same, text_identifies_form.1 r text f mem several,
    (text_identifies_form.2 r r' text text' f mem f' mem' several several same).1⟩

/-- A single empty token prints as no token does. -/
example :
    let r : Record := { intel := "NOP \x7bz\x7d", go := "NOP" }
    let f : Form := ⟨r, [""]⟩
    f ∈ r.forms ∧ f.text? = some "NOP" ∧
      Record.intelArgs { intel := "NOP", go := "NOP" } = [] := by decide +kernel

end Form

end AsmFixtures
