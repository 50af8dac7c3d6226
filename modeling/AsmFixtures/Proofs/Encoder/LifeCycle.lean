import AsmFixtures.Encoder.Shared
import AsmFixtures.Proofs.Batch.Step
import AsmFixtures.Proofs.Encoder.Session
import AsmFixtures.Proofs.Files.Directory
import AsmFixtures.Proofs.Text.Hexadecimal

/-! The life of the engine that a process shares. A process that starts without an engine
waits for the first build that succeeds: until then every call that needs an engine makes one
attempt, and a failed attempt leaves nothing behind but its directory. From then on the
process serves: no attempt is made any more, and what the engine remembers does not show in
its answers. All attempts are the same plan, in a directory that is there. -/

namespace AsmFixtures

namespace Encoder

namespace BuildPlan

theorem toList_directoryName (env : Environment) :
    (directoryName env).toList.length = 12 ∧
      ∀ c ∈ (directoryName env).toList, c ∈ Text.hexAlphabet := by
  unfold directoryName Digest.Sha1.hexDigest
  simp only [String.toList_ofList]
  constructor
  · have first := fun w : UInt32 => Text.width_le_length_hexDigits 8 w.toNat
    simp only [List.length_take, List.flatMap_cons, List.length_append]
    have a := first (Digest.Sha1.digest ((env.get? "XED_INCLUDE_DIR").getD "" ++ "|" ++
      (env.get? "XED_LIBRARY_DIR").getD "").toUTF8.toList).a
    have b := first (Digest.Sha1.digest ((env.get? "XED_INCLUDE_DIR").getD "" ++ "|" ++
      (env.get? "XED_LIBRARY_DIR").getD "").toUTF8.toList).b
    omega
  · intro c mem
    obtain ⟨w, _, digit⟩ := List.mem_flatMap.mp (List.mem_of_mem_take mem)
    exact Text.mem_hexDigits digit

theorem properName_directoryName (env : Environment) : ProperName (directoryName env) := by
  obtain ⟨length, digits⟩ := toList_directoryName env
  constructor
  · intro slash
    exact absurd (digits _ slash) (by decide)
  · by_contra dots
    rcases FileTree.isDots_iff.mp (Bool.not_eq_false _ ▸ dots) with name | name | name <;>
      simp [name] at length

theorem directoryName_congr {env other : Environment}
    (headers : env.get? "XED_INCLUDE_DIR" = other.get? "XED_INCLUDE_DIR")
    (library : env.get? "XED_LIBRARY_DIR" = other.get? "XED_LIBRARY_DIR") :
    directoryName env = directoryName other := by
  rw [directoryName, headers, library, directoryName]

end BuildPlan

theorem Host.directory_plan (host : Host) :
    host.plan.directory =
      Path.join host.cacheDirectory (BuildPlan.directoryName host.environment) := by
  rw [Host.plan, BuildPlan.ofEnvironment, Host.cacheDirectory]

structure Host.Ready (host : Host) (tree : FileTree) : Prop where
  creatable : ((FileWork.ensureDirectory host.plan.directory).runOn tree).1.isOk
  readable : (Silence.parse? host.environment.silence).isOk

def Host.Fails (host : Host) (attempt : Nat) : Prop :=
  ∃ reason, host.builder attempt host.plan = .error reason

theorem Host.Fails.not_ok {host : Host} {attempt : Nat} (h : host.Fails attempt)
    {library : Library} : host.builder attempt host.plan ≠ .ok library := by
  obtain ⟨reason, failure⟩ := h
  rw [failure]
  exact nofun

theorem Host.first_success_unique {host : Host} {k k' : Nat} {library library' : Library}
    (failed : ∀ i < k, host.Fails i) (success : host.builder k host.plan = .ok library)
    (failed' : ∀ i < k', host.Fails i) (success' : host.builder k' host.plan = .ok library') :
    k = k' ∧ library = library' := by
  have same : k = k' := by
    rcases Nat.lt_trichotomy k k' with before | same | behind
    · exact absurd success (failed' k before).not_ok
    · exact same
    · exact absurd success' (failed k' behind).not_ok
  subst same
  exact ⟨rfl, Except.ok.inj (success.symm.trans success')⟩

namespace Shared

variable {host : Host} {s : Shared}

theorem ensured_plan {t u : FileTree} (host : Host)
    (made : (FileWork.ensureDirectory host.plan.directory).runOn t = (.ok (), u)) :
    u.hasDirectory host.plan.directory = true ∧
      (FileWork.ensureDirectory host.plan.directory).runOn u = (.ok (), u) := by
  rw [host.directory_plan] at made ⊢
  have proper := BuildPlan.properName_directoryName host.environment
  have there := FileWork.hasDirectory_of_ensureDirectory proper made
  exact ⟨there, FileWork.ensureDirectory_of_hasDirectory proper there⟩

theorem build_of_ready (ready : host.Ready s.tree) :
    ∃ tree, host.Ready tree ∧
      (s.build host).1 = host.builder s.attempts.length host.plan ∧
      (s.build host).2.2 =
        { s with tree := tree, attempts := ⟨host.plan, true⟩ :: s.attempts } := by
  rcases made : (FileWork.ensureDirectory host.plan.directory).runOn s.tree with
    ⟨e | _, tree⟩
  · have creatable := ready.creatable
    simp [made, Except.isOk, Except.toBool] at creatable
  · obtain ⟨there, again⟩ := ensured_plan host made
    obtain ⟨silence, readable⟩ := exists_silence ready.readable
    refine ⟨tree, ⟨by rw [again]; rfl, ready.readable⟩, ?_⟩
    unfold build
    simp [made, logged?_of_parse_ok readable, there, attemptCount]

theorem obtain_of_failed_build (none : s.engine = none) (ready : host.Ready s.tree)
    {reason : String} (failed : host.builder s.attempts.length host.plan = .error reason) :
    ∃ tree, host.Ready tree ∧ (s.obtain host).1 = .error (.noEncoder reason) ∧
      (s.obtain host).2.2 =
        { s with tree := tree, attempts := ⟨host.plan, true⟩ :: s.attempts } := by
  obtain ⟨tree, stays, answer, state⟩ := build_of_ready ready
  rw [failed] at answer
  refine ⟨tree, stays, ?_⟩
  rw [obtain, none]
  rcases built : s.build host with ⟨e | library, printed, next⟩ <;> simp_all

theorem obtain_of_successful_build (none : s.engine = none) (ready : host.Ready s.tree)
    {library : Library} (success : host.builder s.attempts.length host.plan = .ok library) :
    (s.obtain host).1 = .ok (library, .start) ∧
      (s.obtain host).2.2.engine = some (library, .start) ∧
      (s.obtain host).2.2.attempts = ⟨host.plan, true⟩ :: s.attempts := by
  obtain ⟨tree, stays, answer, state⟩ := build_of_ready ready
  rw [success] at answer
  rw [obtain, none]
  rcases built : s.build host with ⟨e | library, printed, next⟩ <;> simp_all [install]

inductive Request
  | cacheDirectory
  | available
  | hex (inst : Instruction)

inductive Reply
  | directory (path : String)
  | available (present : Except SilenceError Bool)
  | hex (text : Except Failure String)

namespace Request

def NeedsEngine (r : Request) : Prop := r ≠ cacheDirectory

instance (r : Request) : Decidable r.NeedsEngine :=
  match r with
  | cacheDirectory => .isFalse fun h => h rfl
  | available => .isTrue nofun
  | hex _ => .isTrue nofun

def served (host : Host) (library : Library) : Request → Reply
  | cacheDirectory => .directory host.cacheDirectory
  | available => .available (.ok true)
  | hex inst => .hex (((Engine.encode library inst).runOn .start).1.map hexText)

def denied (host : Host) (reason : String) : Request → Reply
  | cacheDirectory => .directory host.cacheDirectory
  | available => .available (.ok false)
  | hex _ => .hex (.error (.config (.noEncoder reason)))

end Request

def answer (host : Host) (s : Shared) : Request → Reply × Shared
  | .cacheDirectory => (.directory host.cacheDirectory, s)
  | .available =>
    let (present, _, next) := s.available host
    (.available present, next)
  | .hex inst =>
    let (bytes, _, next) := s.encode host inst
    (.hex (bytes.map hexText), next)

def after (host : Host) (s : Shared) (requests : List Request) : Shared :=
  requests.foldl (fun s r => (answer host s r).2) s

def engineRequests (requests : List Request) : Nat :=
  requests.countP fun r => decide r.NeedsEngine

theorem answer_of_failed_build (none : s.engine = none) (ready : host.Ready s.tree)
    {reason : String} (failed : host.builder s.attempts.length host.plan = .error reason)
    {r : Request} (needs : r.NeedsEngine) :
    ∃ tree, host.Ready tree ∧ answer host s r = (r.denied host reason,
      { s with tree := tree, attempts := ⟨host.plan, true⟩ :: s.attempts }) := by
  obtain ⟨tree, stays, failure, state⟩ := obtain_of_failed_build none ready failed
  obtain ⟨silence, readable⟩ := exists_silence ready.readable
  refine ⟨tree, stays, ?_⟩
  rcases reply : s.obtain host with ⟨result, printed, next⟩
  simp only [reply] at failure state
  subst failure state
  cases r with
  | cacheDirectory => exact absurd rfl needs
  | available => simp [answer, available, reply, logged?_of_parse_ok readable, Request.denied]
  | hex inst => simp [answer, encode, reply, Request.denied, Except.map]

theorem answer_of_obtain {library : Library} {session : Session}
    (got : (s.obtain host).1 = .ok (library, session))
    (installed : (s.obtain host).2.2.engine = some (library, session))
    (faithful : session.Faithful library) {r : Request} (needs : r.NeedsEngine) :
    (answer host s r).1 = r.served host library ∧
      (answer host s r).2.attempts = (s.obtain host).2.2.attempts ∧
      ∃ session, (answer host s r).2.engine = some (library, session) ∧
        session.Faithful library := by
  rcases reply : s.obtain host with ⟨result, printed, next⟩
  simp only [reply] at got installed ⊢
  subst got
  cases r with
  | cacheDirectory => exact absurd rfl needs
  | available =>
    have present : answer host s .available = (.available (.ok true), next) := by
      simp [answer, available, reply]
    rw [present]
    exact ⟨rfl, rfl, session, installed, faithful⟩
  | hex inst =>
    have start : (Engine.encode library inst).runOn .start = _ :=
      Engine.follows_encode inst .start Session.faithful_start
    have here := Engine.follows_encode inst session faithful
    have text : answer host s (.hex inst) =
        (.hex ((Script.encode library inst).result.map hexText), next.install library
          (session.makeAll library (Script.encode library inst).calls)) := by
      simp [answer, encode, reply, here]
    rw [text]
    refine ⟨?_, rfl, _, rfl, Session.faithful_makeAll faithful _⟩
    rw [Request.served, start]

/-- A process after so many requests that need an engine. -/
inductive Stage (host : Host) (n : Nat) (s : Shared) : Prop
  | waiting (failed : ∀ k < n, host.Fails k)
      (none : s.engine = none) (attempts : s.attempts = List.replicate n ⟨host.plan, true⟩)
      (ready : host.Ready s.tree)
  | serving (k : Nat) (library : Library) (session : Session) (bound : k < n)
      (failed : ∀ i < k, host.Fails i)
      (success : host.builder k host.plan = .ok library)
      (installed : s.engine = some (library, session)) (faithful : session.Faithful library)
      (attempts : s.attempts = List.replicate (k + 1) ⟨host.plan, true⟩)

theorem answer_of_successful_build {n : Nat} (none : s.engine = none)
    (attempts : s.attempts = List.replicate n ⟨host.plan, true⟩) (ready : host.Ready s.tree)
    {library : Library} (success : host.builder n host.plan = .ok library) {r : Request}
    (needs : r.NeedsEngine) :
    (answer host s r).1 = r.served host library ∧
      (answer host s r).2.attempts = ⟨host.plan, true⟩ :: s.attempts ∧
      ∃ session, (answer host s r).2.engine = some (library, session) ∧
        session.Faithful library := by
  have count : s.attempts.length = n := by rw [attempts, List.length_replicate]
  obtain ⟨got, installed, made⟩ := obtain_of_successful_build none ready (count ▸ success)
  rw [← made]
  exact answer_of_obtain got installed Session.faithful_start needs

theorem answer_of_engine (host : Host) {library : Library} {session : Session}
    (installed : s.engine = some (library, session)) (faithful : session.Faithful library)
    {r : Request} (needs : r.NeedsEngine) :
    (answer host s r).1 = r.served host library ∧
      (answer host s r).2.attempts = s.attempts ∧
      ∃ session, (answer host s r).2.engine = some (library, session) ∧
        session.Faithful library := by
  have got : s.obtain host = (.ok (library, session), "", s) := by rw [obtain, installed]
  have result : (s.obtain host).1 = .ok (library, session) := by rw [got]
  have still : (s.obtain host).2.2.engine = some (library, session) := by rw [got, installed]
  have after := answer_of_obtain result still faithful needs
  rwa [got] at after

theorem stage_answer {n : Nat} (h : Stage host n s) (r : Request) :
    Stage host (n + if r.NeedsEngine then 1 else 0) (answer host s r).2 := by
  by_cases needs : r.NeedsEngine
  · rw [if_pos needs]
    cases h with
    | waiting failed none attempts ready =>
      have count : s.attempts.length = n := by rw [attempts, List.length_replicate]
      cases next : host.builder n host.plan with
      | error reason =>
        obtain ⟨tree, stays, reply⟩ := answer_of_failed_build none ready (count ▸ next) needs
        rw [reply]
        refine .waiting ?_ none (by rw [attempts, List.replicate_succ]) stays
        intro k bound
        rcases Nat.lt_succ_iff_lt_or_eq.mp bound with earlier | rfl
        · exact failed k earlier
        · exact ⟨reason, next⟩
      | ok library =>
        obtain ⟨_, made, session, installed, faithful⟩ :=
          answer_of_successful_build none attempts ready next needs
        refine .serving n library session (Nat.lt_succ_self n) failed next installed faithful ?_
        rw [made, attempts, List.replicate_succ]
    | serving k library session bound failed success installed faithful attempts =>
      obtain ⟨_, kept, session', installed', faithful'⟩ :=
        answer_of_engine host installed faithful needs
      exact .serving k library session' (Nat.lt_succ_of_lt bound) failed success installed'
        faithful' (kept.trans attempts)
  · have still : r = .cacheDirectory := not_not.mp needs
    rw [if_neg needs, still]
    exact h

theorem stage_after {n : Nat} (h : Stage host n s) (requests : List Request) :
    Stage host (n + engineRequests requests) (after host s requests) := by
  induction requests generalizing n s with
  | nil => exact h
  | cons r rest ih =>
    have next := ih (stage_answer h r)
    have count : n + engineRequests (r :: rest) =
        n + (if r.NeedsEngine then 1 else 0) + engineRequests rest := by
      simp only [engineRequests, List.countP_cons, decide_eq_true_eq]
      omega
    rw [count]
    exact next

/-- The next request, for a process after `n` requests that needed an engine. -/
structure LifeCycle (host : Host) (n : Nat) (s : Shared) (r : Request) : Prop where
  cacheDirectory :
    answer host s .cacheDirectory = (.directory host.cacheDirectory, s)
  attempts : ∀ a ∈ s.attempts, a = ⟨host.plan, true⟩
  waiting : (∀ k < n, host.Fails k) →
    s.engine = none ∧ s.attempts.length = n ∧
      (r.NeedsEngine → (answer host s r).2.attempts = ⟨host.plan, true⟩ :: s.attempts ∧
        (∀ reason, host.builder n host.plan = .error reason →
          (answer host s r).1 = r.denied host reason ∧
            (answer host s r).2.engine = none) ∧
        ∀ library, host.builder n host.plan = .ok library →
          (answer host s r).1 = r.served host library)
  serving : ∀ k < n, (∀ i < k, host.Fails i) →
    ∀ library, host.builder k host.plan = .ok library →
      s.attempts.length = k + 1 ∧ (∃ session, s.engine = some (library, session)) ∧
        (answer host s r).1 = r.served host library ∧
        (answer host s r).2.attempts = s.attempts

theorem lifeCycle_of_stage {n : Nat} (h : Stage host n s) (r : Request) :
    LifeCycle host n s r := by
  refine ⟨rfl, ?_, ?_, ?_⟩
  · intro a mem
    cases h with
    | waiting _ _ attempts _ => exact List.eq_of_mem_replicate (attempts ▸ mem)
    | serving _ _ _ _ _ _ _ _ attempts => exact List.eq_of_mem_replicate (attempts ▸ mem)
  · intro all_failed
    cases h with
    | waiting _ none attempts ready =>
      have count : s.attempts.length = n := by rw [attempts, List.length_replicate]
      refine ⟨none, count, fun needs => ?_⟩
      cases next : host.builder n host.plan with
      | error reason =>
        obtain ⟨tree, _, reply⟩ := answer_of_failed_build none ready (count ▸ next) needs
        rw [reply]
        refine ⟨rfl, fun other same => ?_, fun library same => by cases same⟩
        cases same
        exact ⟨rfl, none⟩
      | ok library =>
        obtain ⟨served, made, _⟩ := answer_of_successful_build none attempts ready next needs
        refine ⟨made, fun reason same => (by cases same), fun other same => ?_⟩
        cases same
        exact served
    | serving k library _ bound _ success _ _ _ => exact absurd success (all_failed k bound).not_ok
  · intro k bound failed library success
    cases h with
    | waiting all_failed _ _ _ => exact absurd success (all_failed k bound).not_ok
    | serving k' library' session _ failed' success' installed faithful attempts =>
      obtain ⟨rfl, rfl⟩ := Host.first_success_unique failed success failed' success'
      refine ⟨by rw [attempts, List.length_replicate], ⟨session, installed⟩, ?_⟩
      by_cases needs : r.NeedsEngine
      · obtain ⟨served, kept, _⟩ := answer_of_engine host installed faithful needs
        exact ⟨served, kept⟩
      · rw [show r = .cacheDirectory from not_not.mp needs]
        exact ⟨rfl, rfl⟩

/-- The engine of a process that starts without one. -/
theorem shared_engine_life_cycle (host : Host) (tree : FileTree) (ready : host.Ready tree) :
    (host.plan.directory =
        Path.join host.cacheDirectory (BuildPlan.directoryName host.environment) ∧
      ∀ other : Environment,
        other.get? "XED_INCLUDE_DIR" = host.environment.get? "XED_INCLUDE_DIR" →
        other.get? "XED_LIBRARY_DIR" = host.environment.get? "XED_LIBRARY_DIR" →
        BuildPlan.directoryName other = BuildPlan.directoryName host.environment) ∧
      (∀ reason, (Failure.config (.noEncoder reason)).message =
        "cannot build XED binding: " ++ reason) ∧
      ∀ earlier r, LifeCycle host (engineRequests earlier)
        (after host { tree := tree } earlier) r := by
  have start : Stage host 0 { tree := tree } :=
    .waiting (fun _ bound => absurd bound (Nat.not_lt_zero _)) rfl rfl ready
  refine ⟨⟨host.directory_plan, fun other headers library => ?_⟩, fun _ => rfl, ?_⟩
  · exact BuildPlan.directoryName_congr headers library
  · intro earlier r
    have stage := stage_after start earlier
    rw [Nat.zero_add] at stage
    exact lifeCycle_of_stage stage r

/-- The first build fails and the second serves the request that follows. -/
theorem shared_engine_life_cycle_of_second_build :
    let library : Library := ⟨fun _ => 1, fun _ => 1, fun _ => true, fun _ => .ok [0x90]⟩
    let host : Host := ⟨[("XED_LIBRARY_DIR", "lib")], some "/home/u/",
      fun attempt _ => if attempt = 0 then .error "no compiler" else .ok library⟩
    let s := after host { tree := {} } [.available]
    host.Ready {} ∧ s.engine = none ∧ s.attempts.length = 1 ∧
      (answer host s (.hex { opcode := "NOP" })).1 = .hex (.ok "90") ∧
      (answer host s (.hex { opcode := "NOP" })).2.attempts = ⟨host.plan, true⟩ :: s.attempts := by
  intro library host s
  have ready : host.Ready {} := ⟨by decide +kernel, by decide +kernel⟩
  obtain ⟨_, _, lives⟩ := shared_engine_life_cycle host {} ready
  have life : LifeCycle host 1 s (.hex { opcode := "NOP" }) := lives [.available] _
  have failed : ∀ k < 1, host.Fails k := by
    intro k bound
    obtain rfl : k = 0 := by omega
    exact ⟨"no compiler", rfl⟩
  obtain ⟨none, count, next⟩ := life.waiting failed
  obtain ⟨made, _, served⟩ := next nofun
  exact ⟨ready, none, count, served library rfl, made⟩

end Shared

end Encoder

end AsmFixtures
