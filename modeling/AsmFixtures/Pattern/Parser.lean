import AsmFixtures.Pattern.Reading
import AsmFixtures.Text.CharacterSet
import AsmFixtures.Text.Digit
import AsmFixtures.Text.Identifier
import AsmFixtures.Text.Blank

/-! The tree of a pattern. Alternatives are sequences, and a sequence is a list of items
that quantifiers may follow. The functions that recurse take the number of steps that
may still be made; every step but a few per level takes a token, so a multiple of the
pattern's length is enough. -/

namespace AsmFixtures.Pattern

open Text (isBlank isDigit isIdentifier)
open Text.CharacterSet (hexDigit? hexValue)

def escapedPoint? : Char → Option Nat
  | 'a' => some 7
  | 'b' => some 8
  | 'f' => some 12
  | 'n' => some 10
  | 'r' => some 13
  | 't' => some 9
  | 'v' => some 11
  | '\\' => some 92
  | _ => none

def escapedCategory? : Char → Option SetItem
  | 'd' => some (.category false .digit)
  | 'D' => some (.category true .digit)
  | 's' => some (.category false .space)
  | 'S' => some (.category true .space)
  | 'w' => some (.category false .word)
  | 'W' => some (.category true .word)
  | _ => none

def escapedAnchor? : Char → Option Anchor
  | 'A' => some .textStart
  | 'Z' => some .textEnd
  | 'b' => some .boundary
  | 'B' => some .noBoundary
  | _ => none

def isAsciiDigit (c : Char) : Bool := '0' ≤ c && c ≤ '9'

def isOctalDigit (c : Char) : Bool := '0' ≤ c && c ≤ '7'

def isHexDigit (c : Char) : Bool := (hexDigit? c).isSome

def decimalValue (digits : List Char) : Nat :=
  digits.foldl (fun n c => 10 * n + (c.toNat - '0'.toNat)) 0

def octalValue (digits : List Char) : Nat :=
  digits.foldl (fun n c => 8 * n + (c.toNat - '0'.toNat)) 0

def lastPoint : Nat := 0x10ffff

namespace Read

def failEscape {α : Type} (escape : List Char) (fault : String → Fault) : Read α :=
  failBefore escape.length (fault (String.ofList escape))

def hexEscape (letter : Char) (count : Nat) : Read Nat := do
  let digits ← takeWhile isHexDigit count
  let escape := '\\' :: letter :: digits
  if digits.length ≠ count then failEscape escape .incompleteEscape
  let point := hexValue digits
  if point > lastPoint then failEscape escape .badEscape
  return point

/-- An octal escape is at most three digits, and its value at most 255. -/
def octalPoint (digits : List Char) : Read Nat := do
  if octalValue digits > 255 then failEscape ('\\' :: digits) .octalRange
  return octalValue digits

def namedPoint : Read Nat := do
  if ! (← accept '\x7b') then fail (.missing "\x7b")
  let name ← takeUntil '\x7d' "character name" [] (← steps)
  match (← get).characterNames (String.ofList name) with
  | some c => return c.toNat
  | none => failBefore (name.length + 4) (.unknownCharacter (String.ofList name))

def sharedEscape (c : Char) : Read Nat := do
  if c = 'x' then hexEscape c 2
  else if c = 'u' then hexEscape c 4
  else if c = 'U' then hexEscape c 8
  else if c = 'N' then namedPoint
  else if c.isAlpha || isAsciiDigit c then failEscape ['\\', c] .badEscape
  else return c.toNat

/-- An escape inside a set, where a digit starts an octal number. -/
def setEscape (c : Char) : Read SetItem := do
  match escapedPoint? c, escapedCategory? c with
  | some point, _ => return .point point
  | none, some item => return item
  | none, none =>
    if isOctalDigit c then
      let more ← takeWhile isOctalDigit 2
      return .point (← octalPoint (c :: more))
    else return .point (← sharedEscape c)

def checkLookbehind (number : Nat) : Read Unit := do
  let r ← get
  match r.lookbehind with
  | none => return ()
  | some count =>
    if (r.closedWidth? number).isNone then fail .openGroup
    if count ≤ number then fail .groupOfSameLookbehind

def groupReference (digits : List Char) : Read Node := do
  let number := decimalValue digits
  let r ← get
  if r.groupCount ≤ number then failBefore digits.length (.invalidReference number)
  match r.closedWidth? number with
  | none => failBefore (digits.length + 1) .openGroup
  | some width =>
    checkLookbehind number
    return .reference number width

/-- A digit other than zero: three octal digits are a character, else a group is meant. -/
def numberEscape (c : Char) : Read Node := do
  match ← takeWhile isAsciiDigit 1 with
  | [] => groupReference [c]
  | second :: _ =>
    if isOctalDigit c && isOctalDigit second && (← nextIs isOctalDigit) then
      let third ← takeWhile isOctalDigit 1
      return .point (← octalPoint (c :: second :: third))
    else groupReference [c, second]

def escape (c : Char) : Read Node := do
  match escapedAnchor? c, escapedCategory? c, escapedPoint? c with
  | some kind, _, _ => return .anchor kind
  | none, some item, _ => return .set false [item]
  | none, none, some point => return .point point
  | none, none, none =>
    if c = '0' then
      let more ← takeWhile isOctalDigit 2
      return .point (octalValue more)
    else if isAsciiDigit c then numberEscape c
    else return .point (← sharedEscape c)

def setMember (t : Token) : Read SetItem :=
  match t with
  | .plain c => return .point c.toNat
  | .escaped c => setEscape c

def range (first last : Token) (lower upper : SetItem) : Read SetItem :=
  let refused : Read SetItem :=
    failBefore (first.text.length + 1 + last.text.length)
      (.badRange (String.ofList first.text) (String.ofList last.text))
  match lower, upper with
  | .point a, .point b => if b < a then refused else return .range a b
  | _, _ => refused

/-- The members of a set up to its closing bracket, the members so far in reverse. A
closing bracket that would leave the set empty is a member. -/
def setMembers (start : Nat) (found : List SetItem) : Nat → Read (List SetItem)
  | 0 => failAt start .unterminatedSet
  | fuel + 1 => do
    match ← take with
    | none => failAt start .unterminatedSet
    | some t =>
      if t = .plain ']' && ! found.isEmpty then return found.reverse
      else
        let item ← setMember t
        if ← accept '-' then
          match ← take with
          | none => failAt start .unterminatedSet
          | some last =>
            if last = .plain ']' then return (.point '-'.toNat :: item :: found).reverse
            else
              let upper ← setMember last
              setMembers start ((← range t last item upper) :: found) fuel
        else setMembers start (item :: found) fuel

def characterSet : Read Node := do
  let start := (← position) - 1
  let negated ← accept '^'
  return .set negated (← setMembers start [] (← steps))

def repeatLimit : Nat := Nat.pow 2 32 - 1

def repeatCount? (digits : List Char) : Read (Option Nat) := do
  if digits.isEmpty then return none
  if decimalValue digits ≥ repeatLimit then throw ⟨.repeatSize, none⟩
  return some (decimalValue digits)

/-- The bounds inside braces, whose opening one is taken already. Other text in braces
is no quantifier, and the reading goes back behind the brace. -/
def bracedBounds : Read (Option (Nat × Option Nat)) := do
  if ← nextIs (· == '\x7d') then return none
  let here ← position
  let digits ← takeWhile isAsciiDigit (← steps)
  let comma ← accept ','
  let more ← if comma then takeWhile isAsciiDigit (← steps) else pure digits
  if ← accept '\x7d' then
    let least := (← repeatCount? digits).getD 0
    let most ← repeatCount? more
    if most.any (· < least) then failAt here .repeatOrder
    return some (least, most)
  else
    seek here
    return none

def bounds (c : Char) : Read (Option (Nat × Option Nat)) :=
  if c = '?' then return some (0, some 1)
  else if c = '*' then return some (0, none)
  else if c = '+' then return some (1, none)
  else bracedBounds

def repeatMode : Read RepeatMode := do
  if ← accept '?' then return .reluctant
  if ← accept '+' then return .possessive
  return .greedy

/-- Applies a quantifier to the last item; `items` holds the sequence in reverse. -/
def quantify (c : Char) (items : List Node) : Read (List Node) := do
  let here ← position
  match ← bounds c with
  | none => return .point c.toNat :: items
  | some (least, most) =>
    match items with
    | [] | .anchor _ :: _ => failAt (here - 1) .nothingToRepeat
    | .repeated .. :: _ => failAt (here - 1) .multipleRepeat
    | item :: rest => return .repeated (← repeatMode) least most item :: rest

def groupName (terminator : Char) : Read String := do
  let name ← takeUntil terminator "group name" [] (← steps)
  if ! isIdentifier name then
    failBefore (name.length + 1) (.badGroupName (String.ofList name))
  return String.ofList name

def namedGroup (name : String) : Read Nat := do
  match (← get).names.lookup name with
  | some number => return number
  | none => failBefore (name.length + 1) (.unknownGroupName name)

def namedReference : Read Node := do
  let name ← groupName ')'
  let number ← namedGroup name
  match (← get).closedWidth? number with
  | none => failBefore (name.length + 1) .openGroup
  | some width =>
    checkLookbehind number
    return .reference number width

def digitsValue? : Option Nat → List Char → Option Nat
  | value, [] => value
  | value, '_' :: c :: r => do
    let soFar ← value
    digitsValue? (some (10 * soFar + (← Text.digitValue? c))) r
  | value, c :: r => do
    digitsValue? (some (10 * value.getD 0 + (← Text.digitValue? c))) r

def groupNumber? (text : List Char) : Option Nat :=
  match Text.Chars.trim text with
  | '+' :: digits => digitsValue? none digits
  | '-' :: digits => (digitsValue? none digits).filter (· = 0)
  | digits => digitsValue? none digits

def groupLimit : Nat := 1073741823

/-- The group that a condition asks for, by name or by number. A number may be that of
a later group, which is checked at the end. -/
def conditionGroup : Read Nat := do
  let name ← takeUntil ')' "group name" [] (← steps)
  let back := name.length + 1
  if isIdentifier name then namedGroup (String.ofList name)
  else
    match groupNumber? name with
    | none => failBefore back (.badGroupName (String.ofList name))
    | some 0 => failBefore back .badGroupNumber
    | some number =>
      if groupLimit ≤ number then failBefore back (.invalidReference number)
      let place := (← position) - back
      modify fun r =>
        if (r.mentions.lookup number).isSome then r
        else { r with mentions := r.mentions ++ [(number, place)] }
      return number

def isLetter (c : Char) : Bool := isIdentifier [c] && c != '_'

def flagOf (t : Token) (what : String) : Read Flags :=
  match t with
  | .plain c =>
    match Flags.ofLetter? c with
    | some flag => return flag
    | none => failBefore 1 (if isLetter c then .unknownFlag else .missing what)
  | .escaped _ => failBefore 2 (.missing what)

def isAlphabet (flag : Flags) : Bool := ! (flag.meet Flags.alphabet).isEmpty

def hasFlag (c : Char) : Bool := (Flags.ofLetter? c).isSome || c == 'L'

def addedFlags (t : Token) (added : Flags) : Nat → Read (Flags × Token)
  | 0 => fail (.missing "-, : or )")
  | fuel + 1 => do
    if t = .plain 'L' then fail (.badFlags "cannot use 'L' flag with a str pattern")
    let flag ← flagOf t "-, : or )"
    let all := added.union flag
    if isAlphabet flag && all.meet Flags.alphabet ≠ flag then
      fail (.badFlags "flags 'a', 'u' and 'L' are incompatible")
    match ← take with
    | none => fail (.missing "-, : or )")
    | some next =>
      if next.isPlain fun c => c == ')' || c == '-' || c == ':' then return (all, next)
      else addedFlags next all fuel

def removedFlags (t : Token) (removed : Flags) (what : String) : Nat → Read Flags
  | 0 => fail (.missing ":")
  | fuel + 1 => do
    let cannot : Read Flags :=
      fail (.badFlags "cannot turn off flags 'a', 'u' and 'L'")
    if t = .plain 'L' then cannot
    else
      let flag ← flagOf t what
      if isAlphabet flag then cannot
      else
        let all := removed.union flag
        match ← take with
        | none => fail (.missing ":")
        | some next =>
          if next = .plain ':' then return all else removedFlags next all ":" fuel

/-- Flags in front of a group, as turned on and turned off, or `none` for flags of the
whole pattern. `c` is the letter or the hyphen that opens them. -/
def flags (c : Char) : Read (Option (Flags × Flags)) := do
  let (added, next) ←
    if c = '-' then pure ({}, .plain '-') else addedFlags (.plain c) {} (← steps)
  if next = .plain ')' then
    modify fun r => { r with flags := r.flags.union added }
    return none
  else
    if added.template then failBefore 1 (.badFlags "cannot turn on global flag")
    let removed ←
      if next = .plain '-' then
        match ← take with
        | none => fail (.missing "flag")
        | some t => removedFlags t {} "flag" (← steps)
      else pure {}
    if removed.template then failBefore 1 (.badFlags "cannot turn off global flag")
    if ! (added.meet removed).isEmpty then
      failBefore 1 (.badFlags "flag turned on and off")
    return some (added, removed)

def openGroup (name : Option String) : Read Nat := do
  let r ← get
  let number := r.groupCount
  match name with
  | none => set { r with groups := r.groups ++ [none] }
  | some n =>
    match r.names.lookup n with
    | some earlier => failBefore (n.length + 1) (.redefinedGroup n number earlier)
    | none => set { r with groups := r.groups ++ [none], names := (n, number) :: r.names }
  return number

def closeGroup (number : Nat) (width : Width) : Read Unit :=
  modify fun r => { r with groups := r.groups.set (number - 1) (some width) }

inductive Opening
  | item (node : Option Node)
  | capture (name : Option String)
  | flagged (added removed : Flags)
  | atomic
  | look (behind negated : Bool)
  | conditional (number : Nat)

def extension : Read Opening := do
  if ← accept '<' then return .capture (some (← groupName '>'))
  else if ← accept '=' then return .item (some (← namedReference))
  else
    match ← take with
    | none => fail .unexpectedEnd
    | some t =>
      failBefore (t.text.length + 2) (.unknownExtension (String.ofList ('P' :: t.text)))

def lookbehindOpening : Read Opening := do
  match ← take with
  | none => fail .unexpectedEnd
  | some t =>
    if t = .plain '=' then return .look true false
    else if t = .plain '!' then return .look true true
    else failBefore (t.text.length + 2) (.unknownExtension (String.ofList ('<' :: t.text)))

/-- The opening of a group whose parenthesis at `start` is taken already. Flags of the
whole pattern are allowed only where nothing stands in front of them. -/
def opening (start : Nat) (atFront : Bool) : Read Opening := do
  if ! (← accept '?') then return .capture none
  match ← take with
  | none => fail .unexpectedEnd
  | some (.escaped c) => failBefore 3 (.unknownExtension (String.ofList ['\\', c]))
  | some (.plain c) =>
    if c = 'P' then extension
    else if c = ':' then return .flagged {} {}
    else if c = '#' then
      if ← skipPast ')' (← steps) then return .item none
      else failAt start (.missing "), unterminated comment")
    else if c = '=' then return .look false false
    else if c = '!' then return .look false true
    else if c = '<' then lookbehindOpening
    else if c = '(' then return .conditional (← conditionGroup)
    else if c = '>' then return .atomic
    else if hasFlag c || c = '-' then
      match ← flags c with
      | some (added, removed) => return .flagged added removed
      | none => if atFront then return .item none else failAt start .lateGlobalFlags
    else failBefore 2 (.unknownExtension c.toString)

def closeParenthesis (start : Nat) : Read Unit := do
  if ! (← accept ')') then failAt start (.missing "), unterminated subpattern")

def insideLookbehind {α : Type} (body : Read α) : Read α := do
  let outer := (← get).lookbehind
  if outer.isNone then modify fun r => { r with lookbehind := some r.groupCount }
  let result ← body
  if outer.isNone then modify fun r => { r with lookbehind := none }
  return result

def isVerboseBlank (c : Char) : Bool :=
  c == ' ' || c == '\t' || c == '\n' || c == '\r' || c == '\x0b' || c == '\x0c'

mutual

/-- Alternatives up to a closing parenthesis or the end. Flags of the whole pattern that
the first one turned on hold from the second one on. -/
def alternatives (top verbose first : Bool) : Nat → Read (List Node)
  | 0 => fail .unexpectedEnd
  | fuel + 1 => do
    let branch ← sequence verbose (top && first) [] fuel
    if ← accept '|' then
      let r ← get
      let verbose := if top then r.flags.verbose else verbose
      return branch :: (← alternatives top verbose false fuel)
    else return [branch]

def sequence (verbose front : Bool) (items : List Node) : Nat → Read Node
  | 0 => fail .unexpectedEnd
  | fuel + 1 => do
    match ← next with
    | none => return .ofList items.reverse
    | some t =>
      if t = .plain '|' || t = .plain ')' then return .ofList items.reverse
      else
        advance
        match t with
        | .escaped c => sequence verbose front ((← escape c) :: items) fuel
        | .plain c =>
          if verbose && isVerboseBlank c then sequence verbose front items fuel
          else if verbose && c = '#' then
            let _ ← skipPast '\n' (← steps)
            sequence verbose front items fuel
          else if c = '[' then sequence verbose front ((← characterSet) :: items) fuel
          else if c = '*' || c = '+' || c = '?' || c = '\x7b' then
            sequence verbose front (← quantify c items) fuel
          else if c = '.' then sequence verbose front (.any :: items) fuel
          else if c = '^' then sequence verbose front (.anchor .lineStart :: items) fuel
          else if c = '$' then sequence verbose front (.anchor .lineEnd :: items) fuel
          else if c = '(' then
            match ← parenthesis verbose (front && items.isEmpty) fuel with
            | some node => sequence verbose front (node :: items) fuel
            | none =>
              let r ← get
              let verbose := verbose || (front && items.isEmpty && r.flags.verbose)
              sequence verbose front items fuel
          else sequence verbose front (.point c.toNat :: items) fuel

/-- What stands in parentheses, the opening one taken already. Comments and flags of the
whole pattern leave no item. -/
def parenthesis (verbose atFront : Bool) : Nat → Read (Option Node)
  | 0 => fail .unexpectedEnd
  | fuel + 1 => do
    let start := (← position) - 1
    match ← opening start atFront with
    | .item node => return node
    | .capture name =>
      let number ← openGroup name
      let body := Node.ofBranches (← alternatives false verbose true fuel)
      closeParenthesis start
      closeGroup number body.width
      return some (.group number body)
    | .flagged added removed =>
      let inner := (verbose || added.verbose) && ! removed.verbose
      let body := Node.ofBranches (← alternatives false inner true fuel)
      closeParenthesis start
      return some (.flagged added removed body)
    | .atomic =>
      let body := Node.ofBranches (← alternatives false verbose true fuel)
      closeParenthesis start
      return some (.atomic body)
    | .look behind negated =>
      let branches := alternatives false verbose true fuel
      let body := Node.ofBranches (← if behind then insideLookbehind branches else branches)
      closeParenthesis start
      return some (.look behind negated body)
    | .conditional number =>
      checkLookbehind number
      let yes ← sequence verbose false [] fuel
      let no ←
        if ← accept '|' then
          let second ← sequence verbose false [] fuel
          if ← nextIs (· == '|') then fail .manyBranches
          pure second
        else pure .nothing
      closeParenthesis start
      return some (.conditional number yes no)

end

def whole : Read Node := do
  advance
  let branches ← alternatives true false true (4 * (← steps) + 4)
  let r ← get
  if r.flags.ascii && r.flags.unicode then throw ⟨.incompatibleFlags, none⟩
  if r.next.isSome then fail .unbalancedParenthesis
  match r.mentions.find? fun (number, _) => r.groupCount ≤ number with
  | some (number, place) => failAt place (.invalidReference number)
  | none => return .ofBranches branches

end Read

end AsmFixtures.Pattern

namespace AsmFixtures

structure Pattern where
  root : Pattern.Node
  flags : Pattern.Flags

namespace Pattern

def parse? (names : CharacterNames) (text : String) : Except Defect Pattern := do
  let pattern := text.toList.toArray
  let (root, reading) ← Read.whole.run { pattern := pattern, characterNames := names }
  match root.check reading.flags.template with
  | .ok () => return ⟨root, reading.flags⟩
  | .error fault => throw ⟨fault, none⟩

end Pattern

end AsmFixtures
