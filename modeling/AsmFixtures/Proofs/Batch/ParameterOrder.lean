import AsmFixtures.Proofs.Batch.Verdict
import AsmFixtures.Proofs.Encoder.ParameterOrder

/-! Runs do not depend on the order of parameters. A form is tried with sets that have at most
one parameter of each family, so whichever order an engine takes them in, it comes to the same
answer. Two runs with orders of their own ask the library for different things on the way, and
their engines remember them; but they stay alike in all that a later answer depends on. -/

namespace AsmFixtures

namespace Encoder

namespace Shared

def Faithful (s : Shared) : Prop :=
  ∀ library session, s.engine = some (library, session) → session.Faithful library

/-- States of a process that are the same but for what an engine has been asked. -/
inductive Alike : Shared → Shared → Prop
  | waiting {s : Shared} (none : s.engine = none) : Alike s s
  | serving {library : Library} {first second : Session} (s : Shared)
      (faithful : first.Faithful library) (faithful' : second.Faithful library) :
      Alike (s.install library first) (s.install library second)

theorem Faithful.alike {s : Shared} (faithful : s.Faithful) : Alike s s := by
  rcases here : s.engine with _ | ⟨library, session⟩
  · exact .waiting here
  · have kept : s.install library session = s := by rw [install, ← here]
    have remembered := faithful library session here
    have alike := Alike.serving s remembered remembered
    rwa [kept] at alike

theorem Alike.tree {a b : Shared} (h : a.Alike b) : a.tree = b.tree := by
  cases h <;> rfl

theorem engine_build (host : Host) (s : Shared) : (s.build host).2.2.engine = s.engine := by
  unfold build
  dsimp only
  split
  · rfl
  · split <;> rfl

theorem Alike.encode {a b : Shared} (h : a.Alike b) (host : Host) {inst other : Instruction}
    (same : ∀ library : Library, library.encode? inst = library.encode? other) :
    SameReply Alike (a.encode host inst) (b.encode host other) := by
  have answers : ∀ (library : Library) (x y : Session), x.Faithful library →
      y.Faithful library → ∀ (printed : String) (s : Shared),
      SameReply Alike
        (((Engine.encode library inst).runOn x).1, printed,
          s.install library ((Engine.encode library inst).runOn x).2)
        (((Engine.encode library other).runOn y).1, printed,
          s.install library ((Engine.encode library other).runOn y).2) := by
    intro library x y hx hy printed s
    rw [Engine.follows_encode inst x hx, Engine.follows_encode other y hy, Script.result_encode,
      Script.result_encode, same]
    exact .intro (.serving s (Session.faithful_makeAll hx _) (Session.faithful_makeAll hy _))
  cases h with
  | @serving library x y s hx hy => exact answers library x y hx hy "" s
  | waiting none =>
    have engine := engine_build host a
    rcases built : a.build host with ⟨reason | library, printed, next⟩
    · have failed : a.obtain host = (.error (.noEncoder reason), printed, next) := by
        simp only [obtain, none, built]
      rw [built, none] at engine
      simp only [Shared.encode, failed]
      exact .intro (.waiting engine)
    · have made : a.obtain host =
          (.ok (library, .start), printed, next.install library .start) := by
        simp only [obtain, none, built]
      have start := @Session.faithful_start library
      simp only [Shared.encode, made]
      exact answers library .start .start start start printed (next.install library .start)

end Shared

/-- The order in which a process goes through the parameters of an instruction. It may be
another one whenever an instruction is encoded. -/
structure ParameterOrder where
  params : Shared → Instruction → List Param
  perm : ∀ s (inst : Instruction), inst.params.Perm (params s inst)

namespace ParameterOrder

def encode (order : ParameterOrder) (host : Host) : Encode Shared Failure := fun inst s =>
  CommandLine.encodeShared host { inst with params := order.params s inst } s

theorem sameReply_encode (first second : ParameterOrder) (host : Host) {inst : Instruction}
    (one : OnePerFamily inst.params) {a b : Shared} (alike : a.Alike b) :
    SameReply Shared.Alike (first.encode host inst a) (second.encode host inst b) := by
  have reply := alike.encode host fun library =>
    (library.encode?_perm inst one (first.perm a inst)).trans
      (library.encode?_perm inst one (second.perm b inst)).symm
  unfold encode
  rw [encodeShared_eq, encodeShared_eq]
  generalize a.encode host _ = here at reply
  generalize b.encode host _ = there at reply
  cases reply with
  | intro states => exact .intro states

end ParameterOrder

end Encoder

open Encoder

theorem Form.onePerFamily_instruction {form : Form} {params : List Param}
    (variant : params ∈ Variant.all form.record.encoding form.keys)
    (args : List OperandClass.Entry) : OnePerFamily (form.instruction params args).params := by
  have one := (Variant.consistent_of_mem_all variant).onePerFamily
  have nodup : params.Nodup := one.imp fun apart same => apart (congrArg Param.family same)
  have kept := eraseDups_perm_dedup params
  rw [nodup.dedup] at kept
  exact one.perm kept.symm

namespace Batch

theorem ofForms_of_order (host : Host) (first second : ParameterOrder) (setting : Option String)
    (forms : List Form) (sampler : Sampler) {shared : Shared} (faithful : shared.Faithful) :
    (ofForms (first.encode host) setting forms sampler shared).1 =
        (ofForms (second.encode host) setting forms sampler shared).1 ∧
      (ofForms (first.encode host) setting forms sampler shared).2.tree =
        (ofForms (second.encode host) setting forms sampler shared).2.tree := by
  rw [ofForms_eq_ofSteps_plan, ofForms_eq_ofSteps_plan]
  have replies : ∀ form params args, .attempt form params args ∈ Step.plan forms sampler →
      ∀ s t, s.Alike t → SameReply Shared.Alike
        (first.encode host (form.instruction params args) s)
        (second.encode host (form.instruction params args) t) := by
    intro form params args mem s t alike
    have one := Form.onePerFamily_instruction (Step.variant_of_mem_plan mem) args
    exact first.sameReply_encode second host one alike
  obtain ⟨batch, last⟩ := ofSteps_of_sameReply replies setting faithful.alike
  exact ⟨batch, last.tree⟩

end Batch

/-- The order of parameters never matters. The sets that forms are tried with are consistent; of
consistent parameters an engine makes the same, whatever it has done before, and all that it asks
has the operand size that they tell; and so a run leaves the same. -/
theorem parameter_order_never_matters :
    (∀ encoding keys, Variant.all encoding keys ≠ [] ∧
      ((Variant.all encoding keys).Pairwise fun a b => ¬ ∀ p, p ∈ a ↔ p ∈ b) ∧
      ∀ params ∈ Variant.all encoding keys, Variant.Consistent keys params) ∧
    (∀ (library : Library) (earlier : List Query) (inst : Instruction)
      (first second : List Param), OnePerFamily inst.params → inst.params.Perm first →
      inst.params.Perm second →
      let s := (Query.askAll library earlier .start).2
      let run := fun params => (Engine.encode library { inst with params := params }).runOn s
      (run first).1 = (run second).1 ∧ ∃ calls calls',
        (run first).2.trace = s.trace ++ calls ∧ (run second).2.trace = s.trace ++ calls' ∧
        (∀ (ρ : Type) (setters : Setters ρ) (x : ρ),
          calls.foldl setters.apply x = calls'.foldl setters.apply x) ∧
        (∀ c ∈ calls, ∀ r, c.request? = some r → SizedBy inst.params r.operandSize) ∧
        ∀ bytes, (run first).1 = .ok bytes →
          ∃ r, .encode r ∈ calls ∧ library.encode r = .ok bytes) ∧
    ∀ (host : Host) (first second : ParameterOrder) (setting : Option String)
      (forms : List Form) (sampler : Sampler) (shared : Shared), shared.Faithful →
      let run := fun order : ParameterOrder =>
        Batch.ofForms (order.encode host) setting forms sampler shared
      (run first).1 = (run second).1 ∧ (run first).2.tree = (run second).2.tree := by
  refine ⟨fun encoding keys => ?_, ?_, ?_⟩
  · exact ⟨Variant.all_ne_nil encoding keys, Variant.pairwise_all encoding keys,
      fun params mem => Variant.consistent_of_mem_all mem⟩
  · intro library earlier inst first second one permFirst permSecond s run
    obtain ⟨calls, here⟩ := Engine.exists_ordered library earlier inst one permFirst
    obtain ⟨calls', there⟩ := Engine.exists_ordered library earlier inst one permSecond
    refine ⟨here.answer.trans there.answer.symm, calls, calls', here.trace, there.trace, ?_,
      here.sized, fun bytes success => here.encoded bytes (here.answer.symm.trans success)⟩
    intro ρ setters x
    rw [here.overrides, there.overrides]
  · intro host first second setting forms sampler shared faithful run
    exact Batch.ofForms_of_order host first second setting forms sampler faithful

/-- The bytes tell the operand size, the REX.W bit and the vector length. -/
theorem parameter_order_never_matters_for_wide_mask :
    let library : Library :=
      { opcode := fun _ => 7, register := fun _ => 3, converts := fun _ => true
        encode := fun r =>
          .ok ([r.operandSize, r.rexw.getD 9, r.vectorLength.getD 9].map UInt8.ofNat) }
    let host : Host := ⟨[], none, fun _ _ => .ok library⟩
    let inst : Instruction :=
      { opcode := "KMOVQ", params := [.rexw1, .vexl128, .eosz64], args := [.reg "RDX", .reg "K7"] }
    let mask : Form :=
      ⟨{ intel := "KMOVQ r64, k1", go := "KMOVQ K1, R64", encoding := "VEX.L0.F2.0F.W1 93 /r" },
        ["r64", "k1"]⟩
    let listed : ParameterOrder := ⟨fun _ inst => inst.params, fun _ _ => .refl _⟩
    let reversed : ParameterOrder :=
      ⟨fun _ inst => inst.params.reverse, fun _ _ => (List.reverse_perm _).symm⟩
    let shared : Shared := { engine := some (library, .start) }
    OnePerFamily inst.params ∧ inst.params.Perm inst.params.reverse ∧ shared.Faithful ∧
      ((Engine.encode library { inst with params := inst.params.reverse }).runOn .start).1 =
        .ok [64, 1, 0] ∧
      (Batch.ofForms (reversed.encode host) none [mask] {} shared).1.fixtures.map (·.hex) =
        (Batch.ofForms (listed.encode host) none [mask] {} shared).1.fixtures.map (·.hex) ∧
      (Batch.ofForms (listed.encode host) none [mask] {} shared).1.fixtures.map (·.hex) =
        List.replicate 4 "400100" := by
  intro library host inst mask listed reversed shared
  have one : OnePerFamily inst.params := by decide
  have turned : inst.params.Perm inst.params.reverse := (List.reverse_perm _).symm
  have faithful : shared.Faithful := by
    rintro _ _ ⟨⟩
    exact Session.faithful_start
  obtain ⟨_, engine, runs⟩ := parameter_order_never_matters
  obtain ⟨answer, _⟩ :=
    engine library [] inst inst.params.reverse inst.params one turned (List.Perm.refl _)
  obtain ⟨batch, _⟩ := runs host reversed listed none [mask] {} shared faithful
  refine ⟨one, turned, faithful, answer.trans rfl, ?_, by decide +kernel⟩
  rw [batch]

end AsmFixtures
