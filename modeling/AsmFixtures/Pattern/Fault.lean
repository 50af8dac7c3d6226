import AsmFixtures.Text.Quoted
import AsmFixtures.Text.Pieces

/-! What can be wrong with a search pattern, and where. A fault of the text is shown with
its position, and with line and column when the pattern has more than one line. Faults
of the pattern as a whole have no position. -/

namespace AsmFixtures.Pattern

inductive RepeatMode
  | greedy
  | reluctant
  | possessive
deriving DecidableEq

def RepeatMode.name : RepeatMode → String
  | greedy => "MAX_REPEAT"
  | reluctant => "MIN_REPEAT"
  | possessive => "POSSESSIVE_REPEAT"

inductive Fault
  | escapeAtEnd
  | badEscape (text : String)
  | incompleteEscape (text : String)
  | octalRange (text : String)
  | unknownCharacter (name : String)
  | missing (what : String)
  | unexpectedEnd
  | unterminatedSet
  | badRange (first last : String)
  | repeatOrder
  | repeatSize
  | nothingToRepeat
  | multipleRepeat
  | badGroupName (name : String)
  | unknownGroupName (name : String)
  | redefinedGroup (name : String) (group earlier : Nat)
  | badGroupNumber
  | invalidReference (group : Nat)
  | openGroup
  | groupOfSameLookbehind
  | manyBranches
  | unknownExtension (text : String)
  | lateGlobalFlags
  | badFlags (reason : String)
  | unknownFlag
  | incompatibleFlags
  | unbalancedParenthesis
  | lookbehindWidth
  | lookbehindReach
  | templateOperator (mode : RepeatMode)
deriving DecidableEq

def Fault.message : Fault → String
  | escapeAtEnd => "bad escape (end of pattern)"
  | badEscape text => "bad escape " ++ text
  | incompleteEscape text => "incomplete escape " ++ text
  | octalRange text => "octal escape value " ++ text ++ " outside of range 0-0o377"
  | unknownCharacter name => "undefined character name " ++ Text.quote name
  | missing what => "missing " ++ what
  | unexpectedEnd => "unexpected end of pattern"
  | unterminatedSet => "unterminated character set"
  | badRange first last => "bad character range " ++ first ++ "-" ++ last
  | repeatOrder => "min repeat greater than max repeat"
  | repeatSize => "the repetition number is too large"
  | nothingToRepeat => "nothing to repeat"
  | multipleRepeat => "multiple repeat"
  | badGroupName name => "bad character in group name " ++ Text.quote name
  | unknownGroupName name => "unknown group name " ++ Text.quote name
  | redefinedGroup name group earlier =>
    "redefinition of group name " ++ Text.quote name ++ " as group " ++ toString group ++
      "; was group " ++ toString earlier
  | badGroupNumber => "bad group number"
  | invalidReference group => "invalid group reference " ++ toString group
  | openGroup => "cannot refer to an open group"
  | groupOfSameLookbehind => "cannot refer to group defined in the same lookbehind subpattern"
  | manyBranches => "conditional backref with more than two branches"
  | unknownExtension text => "unknown extension ?" ++ text
  | lateGlobalFlags => "global flags not at the start of the expression"
  | badFlags reason => "bad inline flags: " ++ reason
  | unknownFlag => "unknown flag"
  | incompatibleFlags => "ASCII and UNICODE flags are incompatible"
  | unbalancedParenthesis => "unbalanced parenthesis"
  | lookbehindWidth => "look-behind requires fixed-width pattern"
  | lookbehindReach => "looks too much behind"
  | templateOperator mode => "internal: unsupported template operator " ++ mode.name

structure Defect where
  fault : Fault
  place : Option (Nat × List Char) := none
deriving DecidableEq

namespace Defect

def lineNumber (position : Nat) (pattern : List Char) : Nat :=
  (pattern.take position).count '\n' + 1

def columnNumber (position : Nat) (pattern : List Char) : Nat :=
  ((pattern.take position).reverse.takeWhile (· ≠ '\n')).length + 1

def placeText (position : Nat) (pattern : List Char) : String :=
  " at position " ++ toString position ++
    if pattern.contains '\n' then
      " (line " ++ toString (lineNumber position pattern) ++ ", column " ++
        toString (columnNumber position pattern) ++ ")"
    else ""

def message (d : Defect) : String :=
  d.fault.message ++
    match d.place with
    | none => ""
    | some (position, pattern) => placeText position pattern

end Defect

end AsmFixtures.Pattern
