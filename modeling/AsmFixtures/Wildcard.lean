/-! Wildcard patterns for names. A star stands for any text, a question mark for one
character, and brackets for one character of a class: single characters and ranges,
all others when the class opens with an exclamation mark. A bracket that is not
closed stands for itself. -/

namespace AsmFixtures

inductive ClassMember
  | single (c : Char)
  | range (first last : Char)
deriving DecidableEq

inductive Wildcard
  | star
  | one
  | exactly (c : Char)
  | oneOf (negated : Bool) (members : List ClassMember)

namespace ClassMember

def isBackward : ClassMember → Bool
  | single _ => false
  | range first last => last.toNat < first.toNat

def contains : ClassMember → Char → Bool
  | single d, c => c == d
  | range first last, c => first.toNat ≤ c.toNat && c.toNat ≤ last.toNat

/-- A hyphen between two characters makes a range, and is a member anywhere else. -/
def scan : List Char → List ClassMember
  | first :: '-' :: last :: r => range first last :: scan r
  | c :: r => single c :: scan r
  | [] => []

end ClassMember

namespace Wildcard

/-- The text of a class and what follows its closing bracket. An exclamation mark at
the front, and a closing bracket right behind it, belong to the text. -/
def classText? (s : List Char) : Option (List Char × List Char) :=
  let (mark, afterMark) := match s with
    | '!' :: r => (['!'], r)
    | _ => ([], s)
  let (bracket, body) := match afterMark with
    | ']' :: r => ([']'], r)
    | _ => ([], afterMark)
  match body.span (· ≠ ']') with
  | (inside, _ :: behind) => some (mark ++ bracket ++ inside, behind)
  | _ => none

/-- Ranges that run backward are left out first. What then stands at the front decides
whether the class is negated; a range that opens with the mark loses it, and its
hyphen and its last character are members of their own. -/
def ofClass (text : List Char) : Wildcard :=
  let members : List ClassMember := match text with
    | '!' :: r => .single '!' :: ClassMember.scan r
    | _ => ClassMember.scan text
  match members.filter fun m => ! m.isBackward with
  | .single '!' :: rest => oneOf true rest
  | .range '!' last :: rest => oneOf true (.single '-' :: .single last :: rest)
  | kept => oneOf false kept

def parseAtMost : Nat → List Char → List Wildcard
  | 0, _ | _, [] => []
  | fuel + 1, c :: r =>
    if c = '*' then star :: parseAtMost fuel r
    else if c = '?' then one :: parseAtMost fuel r
    else if c = '[' then
      match classText? r with
      | some (text, behind) => ofClass text :: parseAtMost fuel behind
      | none => exactly c :: parseAtMost fuel r
    else exactly c :: parseAtMost fuel r

def parse (pattern : List Char) : List Wildcard := parseAtMost pattern.length pattern

def accepts : Wildcard → Char → Bool
  | star, _ => false
  | one, _ => true
  | exactly d, c => c == d
  | oneOf negated members, c => members.any (·.contains c) != negated

def covers : List Wildcard → List Char → Bool
  | [], name => name.isEmpty
  | star :: rest, [] => covers rest []
  | star :: rest, c :: name => covers rest (c :: name) || covers (star :: rest) name
  | _ :: _, [] => false
  | w :: rest, c :: name => w.accepts c && covers rest name

end Wildcard

def wildcardMatch (pattern name : String) : Bool :=
  Wildcard.covers (Wildcard.parse pattern.toList) name.toList

end AsmFixtures
