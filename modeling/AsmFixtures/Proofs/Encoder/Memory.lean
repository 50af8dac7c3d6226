import Mathlib
import AsmFixtures.Proofs.Encoder.Calls

/-! The memory of an engine does not show in its answers. Any number of calls on one engine
give what the same calls give on new engines, and the library sees what it would see of new
engines, less the lookups of known names that were made before. -/

namespace AsmFixtures.Encoder

namespace Call

def Resolves (library : Library) : Call → Prop
  | .opcode name => library.opcode name ≠ 0
  | .register name => library.register name ≠ 0
  | _ => False

instance (library : Library) : DecidablePred (Resolves library)
  | .opcode name => inferInstanceAs (Decidable (library.opcode name ≠ 0))
  | .register name => inferInstanceAs (Decidable (library.register name ≠ 0))
  | .initTables | .zeroState | .operand _ | .instruction _ | .setMode | .convert _
  | .overrideRexw _ | .overrideVectorLength _ | .encode _ | .errorText => isFalse id

theorem Resolves.isLookup {library : Library} {c : Call} (h : c.Resolves library) :
    c.IsLookup := by
  cases c with
  | opcode name => trivial
  | register name => trivial
  | _ => exact h

end Call

/-- Calls without the lookups of known names that were made before. -/
def withoutRepeats (library : Library) : List Call → List Call → List Call
  | _, [] => []
  | before, c :: rest =>
    if c.Resolves library ∧ c ∈ before then withoutRepeats library before rest
    else c :: withoutRepeats library (c :: before) rest

section Repeats

variable {library : Library} {before : List Call}

theorem withoutRepeats_sublist (calls : List Call) :
    (withoutRepeats library before calls).Sublist calls := by
  induction calls generalizing before with
  | nil => exact .slnil
  | cons c rest ih =>
    rw [withoutRepeats]
    split
    · exact ih.cons c
    · exact ih.cons_cons c

theorem withoutRepeats_congr {other : List Call}
    (same : ∀ c : Call, c.Resolves library → (c ∈ before ↔ c ∈ other)) (calls : List Call) :
    withoutRepeats library before calls = withoutRepeats library other calls := by
  induction calls generalizing before other with
  | nil => rfl
  | cons c rest ih =>
    have head : c.Resolves library ∧ c ∈ before ↔ c.Resolves library ∧ c ∈ other :=
      and_congr_right (same c)
    have tail : withoutRepeats library (c :: before) rest =
        withoutRepeats library (c :: other) rest := by
      apply ih
      intro d resolves
      rw [List.mem_cons, List.mem_cons, same d resolves]
    simp only [withoutRepeats, head, ih same, tail]

theorem withoutRepeats_append (first second : List Call) :
    withoutRepeats library before (first ++ second) =
      withoutRepeats library before first ++
        withoutRepeats library (first ++ before) second := by
  induction first generalizing before with
  | nil => rfl
  | cons c rest ih =>
    rw [List.cons_append, withoutRepeats, withoutRepeats, ih, ih]
    split
    · -- A call that is left out was made before: putting it in front again adds nothing.
      rename_i repeated
      congr 1
      apply withoutRepeats_congr
      intro d _
      have present : d = c → d ∈ rest ++ before := by
        rintro rfl
        exact List.mem_append_right rest repeated.2
      simpa using present
    · rw [List.cons_append]
      congr 2
      apply withoutRepeats_congr
      intro d _
      simp [or_left_comm]

theorem withoutRepeats_of_not_resolves {calls : List Call}
    (h : ∀ c ∈ calls, ¬ c.Resolves library) : withoutRepeats library before calls = calls := by
  induction calls generalizing before with
  | nil => rfl
  | cons c rest ih =>
    have plain : ¬ c.Resolves library := h c List.mem_cons_self
    rw [withoutRepeats, if_neg fun repeated => plain repeated.1,
      ih fun d mem => h d (List.mem_cons_of_mem c mem)]

theorem count_withoutRepeats {c : Call} (known : c.Resolves library) (calls : List Call) :
    (withoutRepeats library before calls).count c =
      if c ∈ before then 0 else min 1 (calls.count c) := by
  induction calls generalizing before with
  | nil => simp [withoutRepeats]
  | cons d rest ih =>
    rw [withoutRepeats]
    by_cases same : d = c
    · subst same
      by_cases repeated : d ∈ before
      · simp [known, repeated, ih]
      · simp [repeated, ih]
    · have apart : c ≠ d := Ne.symm same
      split <;> simp [ih, same, apart]

theorem filterMap_withoutRepeats {β : Type} {f : Call → Option β}
    (other : ∀ c : Call, c.Resolves library → f c = none) (calls : List Call) :
    (withoutRepeats library before calls).filterMap f = calls.filterMap f := by
  induction calls generalizing before with
  | nil => rfl
  | cons c rest ih =>
    rw [withoutRepeats]
    split
    · rename_i repeated
      rw [ih, List.filterMap_cons, other c repeated.1]
    · rw [List.filterMap_cons, List.filterMap_cons, ih]

theorem filterMap_operand?_withoutRepeats (calls : List Call) :
    (withoutRepeats library before calls).filterMap Call.operand? =
      calls.filterMap Call.operand? := by
  apply filterMap_withoutRepeats
  intro c resolves
  cases c with
  | operand o => exact resolves.isLookup.elim
  | _ => rfl

theorem filter_misses_withoutRepeats (calls : List Call) :
    (withoutRepeats library before calls).filter (·.Misses library) =
      calls.filter (·.Misses library) := by
  rw [← List.filterMap_eq_filter]
  apply filterMap_withoutRepeats
  intro c resolves
  have found : ¬ c.Misses library := by
    cases c with
    | opcode name => exact resolves
    | register name => exact resolves
    | _ => exact id
  simp [Option.guard, found]

theorem withoutRepeats_part {earlier : List Call} (within : earlier ⊆ before)
    (part : List Call) :
    withoutRepeats library before (withoutRepeats library earlier part) =
      withoutRepeats library before part := by
  induction part generalizing before earlier with
  | nil => rfl
  | cons c rest ih =>
    by_cases repeated : c.Resolves library ∧ c ∈ earlier
    · have again : c.Resolves library ∧ c ∈ before := ⟨repeated.1, within repeated.2⟩
      rw [withoutRepeats, if_pos repeated, ih within, withoutRepeats, if_pos again]
    · rw [withoutRepeats, if_neg repeated, withoutRepeats, withoutRepeats]
      split
      · rename_i again
        exact ih (List.cons_subset.mpr ⟨again.2, within⟩)
      · rw [ih (List.cons_subset_cons c within)]

theorem withoutRepeats_parts (parts : List (List Call)) :
    withoutRepeats library before (parts.flatMap (withoutRepeats library [])) =
      withoutRepeats library before parts.flatten := by
  induction parts generalizing before with
  | nil => rfl
  | cons part rest ih =>
    rw [List.flatMap_cons, List.flatten_cons, withoutRepeats_append, withoutRepeats_append, ih,
      withoutRepeats_part (List.nil_subset before)]
    congr 1
    apply withoutRepeats_congr
    intro c resolves
    have kept : c ∈ withoutRepeats library [] part ↔ c ∈ part := by
      rw [← List.count_pos_iff, ← List.count_pos_iff, count_withoutRepeats resolves,
        if_neg List.not_mem_nil]
      omega
    rw [List.mem_append, List.mem_append, kept]

end Repeats

/-- A session remembers the lookups it made of known names, and their answers. -/
structure Session.Exact (library : Library) (s : Session) : Prop where
  faithful : s.Faithful library
  knows : ∀ c : Call, s.knows c = true ↔ c.Resolves library ∧ c ∈ s.calls

namespace Session

variable {library : Library}

theorem exact_start : start.Exact library where
  faithful := faithful_start
  knows c := by cases c <;> simp [start, knows, Call.Resolves]

theorem withoutRepeats_start (calls : List Call) :
    withoutRepeats library start.calls calls = withoutRepeats library [] calls := by
  apply withoutRepeats_congr
  intro c resolves
  refine iff_of_false (fun mem => ?_) List.not_mem_nil
  have known := (exact_start.knows c).mpr ⟨resolves, mem⟩
  cases c <;> cases known

theorem calls_learn (s : Session) (c : Call) : (s.learn library c).calls = s.calls := by
  unfold learn
  split
  · split <;> rfl
  · split <;> rfl
  · rfl

theorem knows_learn (s : Session) (c d : Call) :
    (s.learn library c).knows d = true ↔ s.knows d = true ∨ (d = c ∧ c.Resolves library) := by
  cases c with
  | opcode name =>
    by_cases unknown : library.opcode name = 0
    · simp [learn, Call.Resolves, unknown]
    · cases d <;> simp [learn, learnOpcode, knows, Call.Resolves, unknown, or_comm]
  | register name =>
    by_cases unknown : library.register name = 0
    · simp [learn, Call.Resolves, unknown]
    · cases d <;> simp [learn, learnRegister, knows, Call.Resolves, unknown, or_comm]
  | _ => simp [learn, Call.Resolves]

theorem exact_make {s : Session} (h : s.Exact library) (c : Call) :
    (s.make library c).Exact library := by
  refine ⟨faithful_make h.faithful c, fun d => ?_⟩
  unfold make
  split
  · exact h.knows d
  · rw [knows_learn, calls_learn]
    have older : (s.record c).knows d = s.knows d := by cases d <;> rfl
    rw [older, h.knows d]
    change _ ↔ d.Resolves library ∧ d ∈ c :: s.calls
    rw [List.mem_cons]
    constructor
    · rintro (⟨resolves, mem⟩ | ⟨rfl, resolves⟩)
      · exact ⟨resolves, .inr mem⟩
      · exact ⟨resolves, .inl rfl⟩
    · rintro ⟨resolves, rfl | mem⟩
      · exact .inr ⟨rfl, resolves⟩
      · exact .inl ⟨resolves, mem⟩

theorem exact_makeAll {s : Session} (h : s.Exact library) (calls : List Call) :
    (s.makeAll library calls).Exact library := by
  induction calls generalizing s with
  | nil => exact h
  | cons c rest ih => exact ih (exact_make h c)

theorem trace_makeAll {s : Session} (h : s.Exact library) (calls : List Call) :
    (s.makeAll library calls).trace = s.trace ++ withoutRepeats library s.calls calls := by
  induction calls generalizing s with
  | nil => exact (List.append_nil _).symm
  | cons c rest ih =>
    change ((s.make library c).makeAll library rest).trace = _
    rw [ih (exact_make h c), withoutRepeats]
    -- What an exact session knows is what was asked before and found, so the two cases agree.
    by_cases known : s.knows c = true
    · have same : s.make library c = s := if_pos known
      rw [if_pos ((h.knows c).mp known), same]
    · have made : s.make library c = (s.record c).learn library c := if_neg known
      have calls : (s.make library c).calls = c :: s.calls := by rw [made, calls_learn, record]
      have trace : (s.make library c).trace = s.trace ++ [c] := by simp [Session.trace, calls]
      rw [if_neg (mt (h.knows c).mpr known), calls, trace, List.append_assoc]
      rfl

end Session

inductive Query
  | encode (inst : Instruction)
  | opcode (name : String)
  | register (name : Option String)
  | operand (o : Operand)
  | foreign (value : Datum)

inductive Answer
  | bytes (value : List UInt8)
  | number (value : Nat)
  | operand (value : LibraryOperand)

namespace Query

def ask (library : Library) : Query → Engine Answer
  | encode inst => return .bytes (← Engine.encode library inst)
  | opcode name => return .number (← Engine.opcode library name)
  | register name => return .number (← Engine.register library name)
  | operand o => return .operand (← Engine.operand library o)
  | foreign value => return .operand (← Engine.foreignOperand value)

def script (library : Library) : Query → Script Answer
  | encode inst => return .bytes (← Script.encode library inst)
  | opcode name => return .number (← Script.opcode library name)
  | register name => return .number (← Script.register library name)
  | operand o => return .operand (← Script.operand library o)
  | foreign value => Script.fail (.operandType value.typeName)

def askAll (library : Library) : List Query → Session → List (Except Failure Answer) × Session
  | [], s => ([], s)
  | q :: rest, s =>
    let (answer, next) := (q.ask library).runOn s
    let (answers, last) := askAll library rest next
    (answer :: answers, last)

/-- The answer of a new engine, and the calls it makes after it was set up. -/
def fresh (library : Library) (q : Query) : Except Failure Answer × List Call :=
  let (answer, after) := (q.ask library).runOn .start
  (answer, after.trace.drop Session.start.trace.length)

def opcodes : Query → List String
  | encode inst => [inst.opcode]
  | opcode name => [name]
  | _ => []

def registers : Query → List String
  | encode inst => inst.registers
  | register name => name.toList
  | operand o => o.registers
  | _ => []

variable {library : Library}

open Engine in
theorem follows_ask (q : Query) : Follows library (q.ask library) (q.script library) := by
  cases q with
  | encode inst => exact follows_bind (follows_encode inst) fun _ => follows_pure _
  | opcode name => exact follows_bind (follows_opcode name) fun _ => follows_pure _
  | register name => exact follows_bind (follows_register name) fun _ => follows_pure _
  | operand o => exact follows_bind (follows_operand o) fun _ => follows_pure _
  | foreign value => exact follows_throw _

theorem askAll_eq (queries : List Query) {s : Session} (h : s.Faithful library) :
    askAll library queries s = (queries.map fun q => (q.script library).result,
      s.makeAll library (queries.flatMap fun q => (q.script library).calls)) := by
  induction queries generalizing s with
  | nil => rfl
  | cons q rest ih =>
    have after := Session.faithful_makeAll h (q.script library).calls
    simp only [askAll, follows_ask q s h, ih after, List.flatMap_cons, Session.makeAll_append,
      List.map_cons]

theorem exact_askAll (queries : List Query) :
    (askAll library queries .start).2.Exact library := by
  rw [askAll_eq queries Session.faithful_start]
  exact Session.exact_makeAll Session.exact_start _

theorem fresh_eq (q : Query) :
    q.fresh library =
      ((q.script library).result, withoutRepeats library [] (q.script library).calls) := by
  simp only [fresh, follows_ask q .start Session.faithful_start,
    Session.trace_makeAll Session.exact_start, List.drop_left, Session.withoutRepeats_start]

theorem tellsMisses_script (q : Query) : (q.script library).TellsMisses library := by
  cases q with
  | encode inst => exact Script.tellsMisses_bind (Script.tellsMisses_encode inst) fun _ => rfl
  | opcode name => exact Script.tellsMisses_bind (Script.tellsMisses_opcode name) fun _ => rfl
  | register name => exact Script.tellsMisses_bind (Script.tellsMisses_register name) fun _ => rfl
  | operand o => exact Script.tellsMisses_bind (Script.tellsMisses_operand o) fun _ => rfl
  | foreign value => exact Script.tellsMisses_fail rfl

theorem filter_misses_scripts (queries : List Query) :
    (queries.flatMap fun q => (q.script library).calls).filter (·.Misses library) =
      queries.filterMap fun q => missed? (q.script library).result := by
  induction queries with
  | nil => rfl
  | cons q rest ih =>
    rw [List.flatMap_cons, List.filter_append, tellsMisses_script q, ih, List.filterMap_cons]
    cases missed? (q.script library).result <;> rfl

theorem mem_calls_script {q : Query} {c : Call} (h : c ∈ (q.script library).calls)
    (lookup : c.IsLookup) :
    (∃ name ∈ q.opcodes, c = .opcode name) ∨ ∃ name ∈ q.registers, c = .register name := by
  have register_of_prepares : ∀ names : List String, c.Prepares names →
      ∃ name ∈ names, c = .register name := by
    intro names prepares
    cases prepares with
    | register mem => exact ⟨_, mem, rfl⟩
    | operand o => exact lookup.elim
  cases q with
  | encode inst =>
    rcases Script.mem_calls_bind.mp h with here | ⟨_, _, here⟩
    · rcases Script.mem_calls_encode here with same | prepares | plain
      · exact .inl ⟨_, List.mem_cons_self, same⟩
      · exact .inr (register_of_prepares _ prepares)
      · exact absurd lookup plain
    · cases here
  | opcode name =>
    rcases Script.mem_calls_bind.mp h with here | ⟨_, _, here⟩
    · exact .inl ⟨_, List.mem_cons_self, List.mem_singleton.mp here⟩
    · cases here
  | register name =>
    rcases Script.mem_calls_bind.mp h with here | ⟨_, _, here⟩
    · exact .inr (register_of_prepares _ (Script.prepares_register here))
    · cases here
  | operand o =>
    rcases Script.mem_calls_bind.mp h with here | ⟨_, _, here⟩
    · exact .inr (register_of_prepares _ (Script.prepares_operand here))
    · cases here
  | foreign value => cases h

theorem not_isLookup_of_mem_start {c : Call} (h : c ∈ Session.start.trace) : ¬ c.IsLookup := by
  have plain : ∀ c ∈ Session.start.trace, c = .initTables ∨ c = .zeroState := by decide
  rcases plain c h with rfl | rfl <;> exact id

/-- The calls of one engine are what new engines ask for, each known name once. -/
theorem trace_askAll (queries : List Query) :
    (askAll library queries .start).2.trace = Session.start.trace ++
      withoutRepeats library [] (queries.flatMap fun q => (q.script library).calls) := by
  rw [askAll_eq queries Session.faithful_start, Session.trace_makeAll Session.exact_start,
    Session.withoutRepeats_start]

theorem mem_scripts_of_mem_trace {queries : List Query} {c : Call} (lookup : c.IsLookup)
    (h : c ∈ (askAll library queries .start).2.trace) :
    ∃ q ∈ queries, c ∈ (q.script library).calls := by
  rw [trace_askAll, List.mem_append] at h
  rcases h with set_up | made
  · exact absurd lookup (not_isLookup_of_mem_start set_up)
  · exact List.mem_flatMap.mp ((withoutRepeats_sublist _).subset made)

theorem engine_answers_like_new_ones (library : Library) (queries : List Query) :
    let run := askAll library queries .start
    let requests := queries.flatMap fun q => (q.fresh library).2
    run.1 = queries.map (fun q => (q.fresh library).1) ∧
      run.2.trace = Session.start.trace ++ withoutRepeats library [] requests ∧
      (∀ c : Call, c.Resolves library → run.2.trace.count c = min 1 (requests.count c)) ∧
      run.2.trace.filter (·.Misses library) = run.1.filterMap missed? ∧
      (∀ name, .opcode name ∈ run.2.trace → ∃ q ∈ queries, name ∈ q.opcodes) ∧
      ∀ name, .register name ∈ run.2.trace → ∃ q ∈ queries, name ∈ q.registers := by
  intro run requests
  have answers : run.1 = queries.map fun q => (q.fresh library).1 := by
    simp only [run, askAll_eq queries Session.faithful_start, fresh_eq]
  have trace : run.2.trace = Session.start.trace ++ withoutRepeats library [] requests := by
    have parts := @withoutRepeats_parts library [] (queries.map fun q => (q.script library).calls)
    rw [List.flatMap_map, ← List.flatMap_def] at parts
    simp only [run, requests, trace_askAll, fresh_eq, parts]
  refine ⟨answers, trace, ?_, ?_, ?_, ?_⟩
  · intro c resolves
    have set_up : Session.start.trace.count c = 0 :=
      List.count_eq_zero.mpr fun mem => not_isLookup_of_mem_start mem resolves.isLookup
    rw [trace, List.count_append, set_up, count_withoutRepeats resolves,
      if_neg List.not_mem_nil, Nat.zero_add]
  · have set_up : Session.start.trace.filter (·.Misses library) = [] :=
      Script.filter_misses_eq_nil fun _ => not_isLookup_of_mem_start
    have told : run.1.filterMap missed? =
        queries.filterMap fun q => missed? (q.script library).result := by
      simp only [answers, fresh_eq, List.filterMap_map, Function.comp_def]
    change (askAll library queries .start).2.trace.filter (·.Misses library) = _
    rw [told, trace_askAll, List.filter_append, set_up, filter_misses_withoutRepeats,
      filter_misses_scripts]
    rfl
  · intro name mem
    have lookup : (Call.opcode name).IsLookup := trivial
    obtain ⟨q, here, asked⟩ := mem_scripts_of_mem_trace lookup mem
    obtain ⟨other, listed, same⟩ | ⟨_, _, same⟩ := mem_calls_script asked lookup
    · cases same
      exact ⟨q, here, listed⟩
    · cases same
  · intro name mem
    have lookup : (Call.register name).IsLookup := trivial
    obtain ⟨q, here, asked⟩ := mem_scripts_of_mem_trace lookup mem
    obtain ⟨_, _, same⟩ | ⟨other, listed, same⟩ := mem_calls_script asked lookup
    · cases same
    · cases same
      exact ⟨q, here, listed⟩

end Query

end AsmFixtures.Encoder
