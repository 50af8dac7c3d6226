import AsmFixtures.OperandClass.Domain
import AsmFixtures.Product

/-! Taking a bounded part of a domain. A sampler that does not rotate always takes the
opening of the domain; one that rotates goes on where its last draw from the same
class ended, and starts over at the end of the domain. What is drawn depends on the
order of the draws only. -/

namespace AsmFixtures

open OperandClass

structure Sampler where
  rotate : Bool := false
  /-- Where the next draw from a class starts; zero for a class not drawn from yet. -/
  cursors : List (String × Nat) := []

namespace Sampler

def peekCount (key : String) : Nat := min (peeks key) (domain key).length

theorem peekCount_le_length (key : String) : peekCount key ≤ (domain key).length :=
  Nat.min_le_right _ _

/-- `count` entries in cyclic order, from position `start` on. -/
def window {α : Type} (entries : List α) (start count : Nat) : List α :=
  (List.range count).filterMap fun i => entries[(start + i) % entries.length]?

def cursor (s : Sampler) (key : String) : Nat := (s.cursors.lookup key).getD 0

def moveTo (s : Sampler) (key : String) (position : Nat) : Sampler :=
  { s with cursors := (key, position) :: s.cursors.filter (·.1 ≠ key) }

def peek (s : Sampler) (key : String) : List Entry × Sampler :=
  let entries := domain key
  let count := peekCount key
  if s.rotate then
    let start := s.cursor key
    (window entries start count, s.moveTo key ((start + count) % entries.length))
  else (entries.take count, s)

def draws (s : Sampler) : List String → List (List Entry) × Sampler
  | [] => ([], s)
  | key :: keys =>
    let (entries, next) := s.peek key
    let (rest, last) := next.draws keys
    (entries :: rest, last)

def combinations (s : Sampler) (keys : List String) : List (List Entry) × Sampler :=
  let (parts, next) := s.draws keys
  (Odometer.product parts, next)

end Sampler

end AsmFixtures
