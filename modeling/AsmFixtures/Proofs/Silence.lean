import AsmFixtures.Silence.Memory
import Mathlib.Data.List.Basic

/-! What a setting of the log means. The items of a setting are read one after the other, so for
each kind of entries the last item that matches it decides. An item that matches no kind is an
error, and the first such item is the one that is reported. Remembering what settings mean makes
no difference to any call: what is kept was read from the setting it is kept for, and a setting
that could not be read leaves nothing behind. -/

namespace AsmFixtures

theorem logged?_of_parse_error {setting : Option String} {e : SilenceError}
    (invalid : Silence.parse? setting = .error e) (kind : LogKind) (entry : String) :
    logged? setting kind entry = .error e := by
  rw [logged?, invalid]
  rfl

theorem logged?_of_parse_ok {setting : Option String} {silence : Silence}
    (valid : Silence.parse? setting = .ok silence) (kind : LogKind) (entry : String) :
    logged? setting kind entry = .ok (if silence kind then "" else entry) := by
  rw [logged?, valid]
  rfl

theorem exists_silence {setting : Option String} (valid : (Silence.parse? setting).isOk) :
    ∃ silence, Silence.parse? setting = .ok silence := by
  cases parsed : Silence.parse? setting with
  | error e => simp [parsed, Except.isOk, Except.toBool] at valid
  | ok silence => exact ⟨silence, rfl⟩

theorem LogKind.mem_all (kind : LogKind) : kind ∈ all := by cases kind <;> simp [all]

namespace Silence

def bare (item : String) : String :=
  match item.toList with
  | '!' :: pattern => String.ofList pattern
  | _ => item

def Prints (item : String) : Prop := item.toList.head? = some '!'

instance (item : String) : Decidable (Prints item) := inferInstanceAs (Decidable (_ = _))

def Matches (item : String) (kind : LogKind) : Prop := wildcardMatch (bare item) kind.name = true

instance (item : String) (kind : LogKind) : Decidable (Matches item kind) :=
  inferInstanceAs (Decidable (_ = _))

def Known (item : String) : Prop := ∃ kind, Matches item kind

def LastMatch (items : List String) (kind : LogKind) (item : String) : Prop :=
  ∃ before after, items = before ++ item :: after ∧ Matches item kind ∧
    ∀ later ∈ after, ¬ Matches later kind

def FirstUnknown (items : List String) (item : String) : Prop :=
  ∃ before after, items = before ++ item :: after ∧ ¬ Known item ∧ ∀ earlier ∈ before, Known earlier

theorem item_eq (piece : String) : item piece = ⟨! decide (Prints piece), bare piece⟩ := by
  unfold item bare Prints
  split
  · rename_i pattern opening
    simp [opening]
  · rename_i apart
    have plain : piece.toList.head? ≠ some '!' := by
      intro first
      obtain ⟨rest, opening⟩ := List.head?_eq_some_iff.mp first
      exact apart rest opening
    simp [plain]

theorem matches_item (piece : String) (kind : LogKind) :
    (item piece).matches kind = decide (Matches piece kind) := by
  rw [item_eq, SilenceItem.matches]
  exact Bool.decide_eq_true.symm

theorem any_matches_item (piece : String) :
    LogKind.all.any (item piece).matches = true ↔ Known piece := by
  simp [List.any_eq_true, LogKind.mem_all, matches_item, Known]

instance (item : String) : Decidable (Known item) := decidable_of_iff _ (any_matches_item item)

/-- Items are read up to the first that matches no kind, and each kind goes by the last item that
matches it. -/
theorem refineAll_map_item (silence : Silence) (items : List String) :
    refineAll silence (items.map item) =
      match items.find? fun piece => ¬ Known piece with
      | some unknown => .error ⟨bare unknown⟩
      | none => .ok fun kind =>
          match items.reverse.find? fun piece => Matches piece kind with
          | some last => ! decide (Prints last)
          | none => silence kind := by
  induction items generalizing silence with
  | nil => rfl
  | cons piece rest ih =>
    rw [List.map_cons, refineAll, ih]
    by_cases known : Known piece
    · rw [if_pos ((any_matches_item piece).mpr known), List.find?_cons_of_neg (by simp [known]),
        List.reverse_cons]
      cases rest.find? fun piece => ¬ Known piece with
      | some unknown => rfl
      | none =>
        refine congrArg Except.ok (funext fun kind => ?_)
        rw [List.find?_append]
        cases rest.reverse.find? fun piece => Matches piece kind with
        | some last => rfl
        | none =>
          rw [refine, matches_item]
          by_cases here : Matches piece kind <;> simp [here, item_eq]
    · rw [if_neg (mt (any_matches_item piece).mp known), List.find?_cons_of_pos (by simp [known]),
        item_eq]

def Word (items : List String) : Prop :=
  items = ["0"] ∨ items = ["false"] ∨ items = ["1"] ∨ items = ["true"] ∨ items = [""]

instance (items : List String) : Decidable (Word items) :=
  inferInstanceAs (Decidable (_ ∨ _ ∨ _ ∨ _ ∨ _))

section Reading

variable {setting : String} {items : List String} (read : pieces setting = items)
include read

theorem parse?_of_zero (word : items = ["0"] ∨ items = ["false"]) :
    parse? (some setting) = .ok fun _ => false := by
  rcases word with rfl | rfl <;> simp only [parse?, read]

theorem parse?_of_one (word : items = ["1"] ∨ items = ["true"] ∨ items = [""]) :
    parse? (some setting) = .ok fun _ => true := by
  rcases word with rfl | rfl | rfl <;> simp only [parse?, read]

theorem parse?_of_patterns (patterns : ¬ Word items) :
    parse? (some setting) = refineAll (fun _ => true) (items.map item) := by
  unfold Word at patterns
  simp only [parse?, read]
  split <;> simp_all

end Reading

theorem firstUnknown_of_find? {items : List String} {item : String}
    (found : items.find? (fun piece => ¬ Known piece) = some item) : FirstUnknown items item := by
  obtain ⟨unknown, before, after, split, known⟩ := List.find?_eq_some_iff_append.mp found
  exact ⟨before, after, split, by simpa using unknown, by simpa using known⟩

theorem lastMatch_iff {items : List String} {kind : LogKind} {item : String} :
    LastMatch items kind item ↔
      items.reverse.find? (fun piece => Matches piece kind) = some item := by
  rw [List.find?_eq_some_iff_append]
  constructor
  · rintro ⟨before, after, rfl, here, later⟩
    exact ⟨by simpa using here, after.reverse, before.reverse, by simp, by simpa using later⟩
  · rintro ⟨here, after, before, split, later⟩
    refine ⟨before.reverse, after.reverse, ?_, by simpa using here, by simpa using later⟩
    have reversed := congrArg List.reverse split
    simpa using reversed

section Patterns

variable {setting : String} {items : List String}
  (read : parse? (some setting) = refineAll (fun _ => true) (items.map item))
  (kind : LogKind) (entry : String)
include read

theorem logged?_of_firstUnknown {item : String}
    (found : items.find? (fun piece => ¬ Known piece) = some item) :
    logged? (some setting) kind entry = .error ⟨bare item⟩ := by
  have failed : parse? (some setting) = .error ⟨bare item⟩ := by
    rw [read, refineAll_map_item, found]
  exact logged?_of_parse_error failed kind entry

theorem logged?_of_known (known : ∀ item ∈ items, Known item) :
    ((∃ item, LastMatch items kind item ∧ Prints item) →
        logged? (some setting) kind entry = .ok entry) ∧
      ((¬ ∃ item, LastMatch items kind item ∧ Prints item) →
        logged? (some setting) kind entry = .ok "") := by
  have all : items.find? (fun piece => ¬ Known piece) = none := by
    simpa [List.find?_eq_none] using known
  rw [refineAll_map_item, all] at read
  rw [logged?_of_parse_ok read]
  simp only [lastMatch_iff]
  cases items.reverse.find? fun piece => Matches piece kind with
  | none => exact ⟨by simp, fun _ => rfl⟩
  | some last => by_cases prints : Prints last <;> simp [prints]

theorem logged?_error_iff :
    ((∃ e, logged? (some setting) kind entry = .error e) ↔
      ∃ item ∈ items, ¬ Known item) ∧
    ∀ e, logged? (some setting) kind entry = .error e →
      ∃ item, FirstUnknown items item ∧ e.pattern = bare item := by
  cases found : items.find? fun piece => ¬ Known piece with
  | some item =>
    have raised := logged?_of_firstUnknown read kind entry found
    have first := firstUnknown_of_find? found
    obtain ⟨before, after, split, unknown, _⟩ := id first
    refine ⟨⟨fun _ => ⟨item, by simp [split], unknown⟩, fun _ => ⟨_, raised⟩⟩, fun e same => ?_⟩
    obtain rfl := Except.error.inj (raised.symm.trans same)
    exact ⟨item, first, rfl⟩
  | none =>
    have known : ∀ item ∈ items, Known item := by
      simpa [List.find?_eq_none] using found
    have quiet : ∀ e, logged? (some setting) kind entry ≠ .error e := by
      intro e same
      obtain ⟨shown, silent⟩ := logged?_of_known read kind entry known
      by_cases prints : ∃ item, LastMatch items kind item ∧ Prints item
      · cases (shown prints).symm.trans same
      · cases (silent prints).symm.trans same
    refine ⟨⟨fun ⟨e, same⟩ => absurd same (quiet e), ?_⟩, fun e same => absurd same (quiet e)⟩
    rintro ⟨item, mem, unknown⟩
    exact absurd (known item mem) unknown

end Patterns

namespace Memory

def Faithful (m : Memory) : Prop := ∀ p ∈ m.recent, parse? p.1 = .ok p.2

variable {m : Memory}

theorem Faithful.read? (faithful : m.Faithful) (setting : Option String) :
    (m.read? setting).1 = parse? setting ∧ (m.read? setting).2.Faithful := by
  unfold Memory.read?
  cases found : m.recent.lookup setting with
  | some silence =>
    obtain ⟨before, after, split, _⟩ := List.lookup_eq_some_iff.mp found
    have kept : parse? setting = .ok silence := faithful (setting, silence) (by simp [split])
    refine ⟨kept.symm, List.forall_mem_cons.mpr ⟨kept, fun p mem => ?_⟩⟩
    exact faithful p (List.mem_filter.mp mem).1
  | none =>
    cases parsed : parse? setting with
    | error e => exact ⟨rfl, faithful⟩
    | ok silence =>
      refine ⟨rfl, fun p mem => ?_⟩
      have parts : ∀ q ∈ (setting, silence) :: m.recent, parse? q.1 = .ok q.2 :=
        List.forall_mem_cons.mpr ⟨parsed, faithful⟩
      exact parts p (List.mem_of_mem_take mem)

end Memory

end Silence

namespace LogCall

open Silence (Memory)

theorem perform_of_faithful {memory : Memory} (faithful : memory.Faithful) (call : LogCall) :
    (call.perform memory).1 = logged? call.setting call.kind call.entry ∧
      (call.perform memory).2.Faithful := by
  obtain ⟨read, kept⟩ := faithful.read? call.setting
  refine ⟨?_, kept⟩
  rw [perform, logged?]
  dsimp only
  rw [read]
  cases Silence.parse? call.setting <;> rfl

theorem faithful_performAll {memory : Memory} (faithful : memory.Faithful) (calls : List LogCall) :
    (performAll calls memory).2.Faithful := by
  induction calls generalizing memory with
  | nil => exact faithful
  | cons call rest ih => exact ih (perform_of_faithful faithful call).2

end LogCall

namespace Silence

/-- The last matching pattern wins. A setting of one word may print everything or nothing. Any other
is an error just when one of its items matches no kind, and names the first of these; otherwise a
kind is printed just when the last item that matches it begins with an exclamation mark. All this
holds for each call, whatever was logged before under whatever settings. -/
theorem last_match_wins :
    (∀ (setting : String) (kind : LogKind) (entry : String),
      let all := (Text.split ',' (Text.lower setting)).map Text.trim
      let items := if 1 < all.length ∧ all.getLast? = some "" then all.dropLast else all
      let outcome := logged? (some setting) kind entry
      (items = ["0"] ∨ items = ["false"] → outcome = .ok entry) ∧
      (items = ["1"] ∨ items = ["true"] ∨ items = [""] → outcome = .ok "") ∧
      (¬ Word items →
        ((∃ e, outcome = .error e) ↔ ∃ item ∈ items, ¬ Known item) ∧
        (∀ e, outcome = .error e → ∃ item, FirstUnknown items item ∧ e.pattern = bare item) ∧
        ((∀ item ∈ items, Known item) →
          ((∃ item, LastMatch items kind item ∧ Prints item) → outcome = .ok entry) ∧
          ((¬ ∃ item, LastMatch items kind item ∧ Prints item) → outcome = .ok "")))) ∧
    ∀ (earlier : List LogCall) (call : LogCall),
      (call.perform (LogCall.performAll earlier {}).2).1 =
        logged? call.setting call.kind call.entry := by
  refine ⟨fun setting kind entry => ?_, ?_⟩
  · intro all items outcome
    have read : pieces setting = items := rfl
    clear_value items
    refine ⟨fun word => ?_, fun word => ?_, fun patterns => ?_⟩
    · exact logged?_of_parse_ok (parse?_of_zero read word) kind entry
    · exact logged?_of_parse_ok (parse?_of_one read word) kind entry
    · have parsed := parse?_of_patterns read patterns
      obtain ⟨raises, first⟩ := logged?_error_iff parsed kind entry
      exact ⟨raises, first, logged?_of_known parsed kind entry⟩
  · intro earlier call
    have start : Memory.Faithful {} := nofun
    exact (LogCall.perform_of_faithful (LogCall.faithful_performAll start earlier) call).1

/-- An exclamation mark overrides the star in front of it, letter case and a comma at the end do not
count, and an error leaves the next call as it would be. -/
theorem last_match_wins_of_override :
    let failing : LogCall := ⟨some "*,!none,", .skippedForm, "text"⟩
    let call : LogCall := ⟨some "*, !SKIP_*,", .skippedForm, "text"⟩
    (call.perform (LogCall.performAll [failing, call, failing] {}).2).1 = .ok "text" ∧
      logged? (some "*, !SKIP_*,") .general "text" = .ok "" ∧
      (∃ e item, logged? (some "*,!none,") .general "text" = .error e ∧
        FirstUnknown ["*", "!none"] item ∧ e.pattern = bare item) ∧
      logged? (some " FALSE,") .general "text" = .ok "text" ∧
      logged? (some "true") .general "text" = .ok "" := by
  intro failing call
  have star : ∀ kind, Matches "*" kind := by
    intro kind
    cases kind <;> cbv
  have skip : Matches "!skip_*" .skippedForm := by cbv
  have apart : ¬ Matches "!skip_*" .general := by
    intro found
    cbv at found
    cases found
  have unknown : ¬ Known "!none" := by
    rintro ⟨kind, found⟩
    cases kind <;> cbv at found <;> cases found
  have read : pieces "*, !SKIP_*," = ["*", "!skip_*"] := by decide +kernel
  have known : ∀ item ∈ pieces "*, !SKIP_*,", Known item := by
    simpa [read] using ⟨⟨.general, star _⟩, ⟨.skippedForm, skip⟩⟩
  have patterns : ¬ Word (pieces "*, !SKIP_*,") := by decide +kernel
  have last : LastMatch (pieces "*, !SKIP_*,") .skippedForm "!skip_*" :=
    ⟨["*"], [], read, skip, List.forall_mem_nil _⟩
  have covered : ¬ ∃ item, LastMatch (pieces "*, !SKIP_*,") .general item ∧ Prints item := by
    rintro ⟨item, found, prints⟩
    have decided : item = "*" := by
      simpa [lastMatch_iff, read, apart, star, eq_comm] using found
    subst decided
    exact absurd prints (by decide +kernel)
  have read' : pieces "*,!none," = ["*", "!none"] := by decide +kernel
  have patterns' : ¬ Word (pieces "*,!none,") := by decide +kernel
  have unread : ∃ item ∈ pieces "*,!none,", ¬ Known item := ⟨"!none", by simp [read'], unknown⟩
  obtain ⟨reads, remembers⟩ := last_match_wins
  obtain ⟨_, _, mixed⟩ := reads "*, !SKIP_*," .skippedForm "text"
  obtain ⟨_, _, silent⟩ := reads "*, !SKIP_*," .general "text"
  obtain ⟨_, _, failed⟩ := reads "*,!none," .general "text"
  obtain ⟨raises, first, _⟩ := failed patterns'
  obtain ⟨e, raised⟩ := raises.mpr unread
  obtain ⟨item, named, pattern⟩ := first e raised
  exact ⟨(remembers _ call).trans (((mixed patterns).2.2 known).1 ⟨_, last, by decide +kernel⟩),
    ((silent patterns).2.2 known).2 covered, ⟨e, item, raised, read' ▸ named, pattern⟩,
    (reads _ _ _).1 (by decide +kernel), (reads _ _ _).2.1 (by decide +kernel)⟩

end Silence

end AsmFixtures
