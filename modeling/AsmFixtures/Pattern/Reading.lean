import AsmFixtures.Pattern.CharacterName
import AsmFixtures.Pattern.Syntax

/-! Reading a pattern from left to right, one token ahead. A token is a character, or a
backslash with the character behind it, so a pattern that ends in a lone backslash is
refused as soon as the reading looks at it. The reading also keeps what it learned:
the global flags, the groups opened so far with the widths of the closed ones, and the
group numbers that a condition mentioned ahead of the group. -/

namespace AsmFixtures.Pattern

inductive Token
  | plain (c : Char)
  | escaped (c : Char)
deriving DecidableEq

namespace Token

def text : Token → List Char
  | plain c => [c]
  | escaped c => ['\\', c]

def isPlain (p : Char → Bool) : Token → Bool
  | plain c => p c
  | escaped _ => false

end Token

structure Reading where
  pattern : Array Char
  characterNames : CharacterNames
  index : Nat := 0
  next : Option Token := none
  flags : Flags := {}
  names : List (String × Nat) := []
  groups : List (Option Width) := []
  /-- How many groups there were, with the whole pattern counted, where the outermost
  open lookbehind began. -/
  lookbehind : Option Nat := none
  mentions : List (Nat × Nat) := []

abbrev Read := StateT Reading (Except Defect)

namespace Reading

def position (r : Reading) : Nat :=
  r.index - match r.next with
    | some t => t.text.length
    | none => 0

def groupCount (r : Reading) : Nat := r.groups.length + 1

def closedWidth? (r : Reading) (number : Nat) : Option Width :=
  if number = 0 then none else (r.groups[number - 1]?).join

def lookAhead (r : Reading) : Except Defect Reading :=
  match r.pattern[r.index]? with
  | none => .ok { r with next := none }
  | some '\\' =>
    match r.pattern[r.index + 1]? with
    | some c => .ok { r with next := some (.escaped c), index := r.index + 2 }
    | none => .error ⟨.escapeAtEnd, some (r.pattern.size - 1, r.pattern.toList)⟩
  | some c => .ok { r with next := some (.plain c), index := r.index + 1 }

end Reading

namespace Read

/-- Fails `back` characters in front of the next token. -/
def failBefore {α : Type} (back : Nat) (fault : Fault) : Read α := do
  let r ← get
  throw ⟨fault, some (r.position - back, r.pattern.toList)⟩

def fail {α : Type} (fault : Fault) : Read α := failBefore 0 fault

def failAt {α : Type} (position : Nat) (fault : Fault) : Read α := do
  let r ← get
  throw ⟨fault, some (position, r.pattern.toList)⟩

def advance : Read Unit := do
  let r ← get
  match r.lookAhead with
  | .ok next => set next
  | .error defect => throw defect

def next : Read (Option Token) := return (← get).next

def position : Read Nat := return (← get).position

def take : Read (Option Token) := do
  let t ← next
  advance
  return t

def seek (index : Nat) : Read Unit := do
  modify fun r => { r with index := index }
  advance

def nextIs (p : Char → Bool) : Read Bool := return (← next).any (·.isPlain p)

def accept (c : Char) : Read Bool := do
  if ← nextIs (· == c) then
    advance
    return true
  else return false

def takeWhile (p : Char → Bool) : Nat → Read (List Char)
  | 0 => return []
  | count + 1 => do
    match ← next with
    | some (.plain c) =>
      if p c then
        advance
        return c :: (← takeWhile p count)
      else return []
    | _ => return []

def takeUntil (terminator : Char) (what : String) (found : List Char) :
    Nat → Read (List Char)
  | 0 => fail (.missing what)
  | fuel + 1 => do
    match ← take with
    | none =>
      if found.isEmpty then fail (.missing what)
      else failBefore found.length (.missing (terminator.toString ++ ", unterminated name"))
    | some t =>
      if t = .plain terminator then
        if found.isEmpty then failBefore 1 (.missing what) else return found
      else takeUntil terminator what (found ++ t.text) fuel

def skipPast (terminator : Char) : Nat → Read Bool
  | 0 => return false
  | fuel + 1 => do
    match ← take with
    | none => return false
    | some t => if t = .plain terminator then return true else skipPast terminator fuel

def steps : Read Nat := return (← get).pattern.size + 1

end Read

end AsmFixtures.Pattern
