import AsmFixtures.Silence

/-! Reading settings with a memory. What the settings mean that were used last is kept, up to a
fixed number of them; when there is no room, the one whose last use is longest ago is forgotten.
A setting that cannot be read is not kept, so it is read again on its next use. -/

namespace AsmFixtures

namespace Silence

/-- Settings and what they mean, the one that was used last in front. -/
structure Memory where
  recent : List (Option String × Silence) := []

namespace Memory

def capacity : Nat := 128

def read? (m : Memory) (setting : Option String) : Except SilenceError Silence × Memory :=
  match m.recent.lookup setting with
  | some silence => (.ok silence, ⟨(setting, silence) :: m.recent.filter (·.1 ≠ setting)⟩)
  | none =>
    match parse? setting with
    | .ok silence => (.ok silence, ⟨((setting, silence) :: m.recent).take capacity⟩)
    | .error e => (.error e, m)

end Memory

end Silence

structure LogCall where
  setting : Option String
  kind : LogKind
  entry : String

namespace LogCall

def perform (call : LogCall) (memory : Silence.Memory) :
    Except SilenceError String × Silence.Memory :=
  let (read, next) := memory.read? call.setting
  (read.map fun silence => if silence call.kind then "" else call.entry, next)

/-- Calls in sequence. One that fails does not keep the next from being made. -/
def performAll : List LogCall → Silence.Memory →
    List (Except SilenceError String) × Silence.Memory
  | [], memory => ([], memory)
  | call :: rest, memory =>
    let (printed, next) := call.perform memory
    let (others, last) := performAll rest next
    (printed :: others, last)

end LogCall

end AsmFixtures
