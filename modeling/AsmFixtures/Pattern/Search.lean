import AsmFixtures.Pattern.LetterCase
import AsmFixtures.Pattern.Parser

/-! Searching a text for a pattern. A node is run in front of what has to match behind it,
and it offers its own matches in order of preference until one of them lets the rest
match too. So a match, if there is one, is found together with what its groups
captured. -/

namespace AsmFixtures.Pattern

/-- How far a match has come and what the groups captured, the latest capture first. -/
structure Progress where
  position : Nat
  captures : List (Nat × Nat × Nat) := []

abbrev Rest := Progress → Option Progress

namespace Progress

def capture? (p : Progress) (number : Nat) : Option (Nat × Nat) := p.captures.lookup number

end Progress

def isAsciiBlank (c : Char) : Bool := c == ' ' || ('\t' ≤ c && c ≤ '\r')

def Category.contains (ascii : Bool) (c : Char) : Category → Bool
  | digit => if ascii then isAsciiDigit c else Text.isDigit c
  | space => if ascii then isAsciiBlank c else Text.isBlank c
  | word => if ascii then Text.isAsciiWordCharacter c else Text.isWordCharacter c

def Flags.points (f : Flags) (c : Char) : List Nat :=
  if f.ignoreCase then sameLetters f.ascii c.toNat else [c.toNat]

def SetItem.contains (f : Flags) (c : Char) : SetItem → Bool
  | point p => (f.points c).contains p
  | range first last => (f.points c).any fun p => first ≤ p && p ≤ last
  | category negated kind => kind.contains f.ascii c != negated

def wordAt (text : Array Char) (f : Flags) (position : Nat) : Bool :=
  text[position]?.any fun c => Category.word.contains f.ascii c

def isBoundary (text : Array Char) (f : Flags) (position : Nat) : Bool :=
  (0 < position && wordAt text f (position - 1)) != wordAt text f position

/-- Without the multiline flag a line end counts only at the end of the text. Neither
boundary anchor holds in an empty text. -/
def Anchor.holds (text : Array Char) (f : Flags) (position : Nat) : Anchor → Bool
  | textStart => position == 0
  | textEnd => position == text.size
  | lineStart => position == 0 || (f.multiline && text[position - 1]? == some '\n')
  | lineEnd =>
    position == text.size ||
      ((f.multiline || position + 1 == text.size) && text[position]? == some '\n')
  | boundary => ! text.isEmpty && isBoundary text f position
  | noBoundary => ! text.isEmpty && ! isBoundary text f position

def readOne (text : Array Char) (accepts : Char → Bool) (rest : Rest) : Rest := fun p =>
  match text[p.position]? with
  | none => none
  | some c => if accepts c then rest { p with position := p.position + 1 } else none

namespace Repetition

def exactly (body : Rest → Rest) : Nat → Rest → Rest
  | 0, rest => rest
  | count + 1, rest => body (exactly body count rest)

/-- A body that may match again, at most `most` times. It is not tried where its last try
began, because it matched nothing there. -/
def more (reluctant : Bool) (body : Rest → Rest) (rest : Rest) :
    Nat → Option Nat → Option Nat → Rest
  | 0, _, _ => rest
  | fuel + 1, most, last => fun p =>
    let again (_ : Unit) : Option Progress :=
      if most = some 0 ∨ last = some p.position then none
      else body (more reluctant body rest fuel (most.map (· - 1)) (some p.position)) p
    if reluctant then rest p <|> again () else again () <|> rest p

def greedily (body : Rest → Rest) : Nat → Option Nat → Option Nat → Progress → Progress
  | 0, _, _, p => p
  | fuel + 1, most, last, p =>
    if most = some 0 ∨ last = some p.position then p
    else
      match body some p with
      | none => p
      | some next => greedily body fuel (most.map (· - 1)) (some p.position) next

def firstOnes (body : Rest → Rest) : Nat → Progress → Option Progress
  | 0, p => some p
  | count + 1, p => (body some p).bind (firstOnes body count)

end Repetition

def sameStretch (text : Array Char) (f : Flags) (first second length : Nat) : Bool :=
  (List.range length).all fun i =>
    match text[first + i]?, text[second + i]? with
    | some a, some b =>
      if f.ignoreCase then foldPoint f.ascii a.toNat == foldPoint f.ascii b.toNat else a == b
    | _, _ => false

namespace Node

/-- A repetition makes at most as many further tries as there are characters left, and
one more that matches nothing. -/
def run (text : Array Char) : Node → Flags → Rest → Rest
  | nothing, _, rest => rest
  | point c, f, rest => readOne text (fun d => (f.points d).contains c) rest
  | any, f, rest => readOne text (fun c => f.dotAll || c != '\n') rest
  | set negated items, f, rest =>
    readOne text (fun c => items.any (·.contains f c) != negated) rest
  | anchor kind, f, rest => fun p => if kind.holds text f p.position then rest p else none
  | seq a b, f, rest => run text a f (run text b f rest)
  | either a b, f, rest => fun p => run text a f rest p <|> run text b f rest p
  | repeated mode least most body, f, rest =>
    let again := run text body f
    let left := most.map (· - least)
    match mode with
    | .greedy => Repetition.exactly again least fun p =>
      Repetition.more false again rest (text.size + 2 - p.position) left none p
    | .reluctant => Repetition.exactly again least fun p =>
      Repetition.more true again rest (text.size + 2 - p.position) left none p
    | .possessive => fun p =>
      (Repetition.firstOnes again least p).bind fun q =>
        rest (Repetition.greedily again (text.size + 2 - q.position) left none q)
  | group number body, f, rest => fun p =>
    run text body f
      (fun q => rest { q with captures := (number, p.position, q.position) :: q.captures }) p
  | flagged added removed body, f, rest => run text body (f.change added removed) rest
  | atomic body, f, rest => fun p => (run text body f some p).bind rest
  | look behind negated body, f, rest => fun p =>
    let back := if behind then body.width.least else 0
    let found :=
      if p.position < back then none
      else run text body f some { p with position := p.position - back }
    match negated, found with
    | true, none => rest p
    | false, some q => rest { q with position := p.position }
    | _, _ => none
  | reference number _, f, rest => fun p =>
    match p.capture? number with
    | none => none
    | some (first, last) =>
      if sameStretch text f first p.position (last - first) then
        rest { p with position := p.position + (last - first) }
      else none
  | conditional number yes no, f, rest => fun p =>
    if (p.capture? number).isSome then run text yes f rest p else run text no f rest p

end Node

def occursIn (pattern : Pattern) (text : String) : Bool :=
  let characters := text.toList.toArray
  (List.range (characters.size + 1)).any fun start =>
    (pattern.root.run characters pattern.flags some ⟨start, []⟩).isSome

end AsmFixtures.Pattern
