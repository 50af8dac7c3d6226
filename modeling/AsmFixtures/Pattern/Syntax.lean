import AsmFixtures.Pattern.Fault

/-! Search patterns as trees. A pattern matches a stretch of a text, and its width bounds
the length of the stretch. A lookbehind needs a body of one width, because that says
where the body starts to match. -/

namespace AsmFixtures.Pattern

structure Flags where
  ignoreCase : Bool := false
  multiline : Bool := false
  dotAll : Bool := false
  verbose : Bool := false
  ascii : Bool := false
  unicode : Bool := false
  template : Bool := false
deriving DecidableEq

namespace Flags

def combine (f : Bool → Bool → Bool) (a b : Flags) : Flags :=
  ⟨f a.ignoreCase b.ignoreCase, f a.multiline b.multiline, f a.dotAll b.dotAll,
    f a.verbose b.verbose, f a.ascii b.ascii, f a.unicode b.unicode, f a.template b.template⟩

def union : Flags → Flags → Flags := combine (· || ·)

def meet : Flags → Flags → Flags := combine (· && ·)

def without : Flags → Flags → Flags := combine fun a b => a && ! b

def isEmpty (f : Flags) : Bool := f == {}

def alphabet : Flags := { ascii := true, unicode := true }

def change (f added removed : Flags) : Flags :=
  let kept := if (added.meet alphabet).isEmpty then f else f.without alphabet
  (kept.union added).without removed

def ofLetter? : Char → Option Flags
  | 'i' => some { ignoreCase := true }
  | 'm' => some { multiline := true }
  | 's' => some { dotAll := true }
  | 'x' => some { verbose := true }
  | 'a' => some { ascii := true }
  | 'u' => some { unicode := true }
  | 't' => some { template := true }
  | _ => none

end Flags

inductive Category
  | digit
  | space
  | word
deriving DecidableEq

/-- Characters stand as code points, so that points which are no characters can be
written too; they match nothing. -/
inductive SetItem
  | point (c : Nat)
  | range (first last : Nat)
  | category (negated : Bool) (kind : Category)
deriving DecidableEq

inductive Anchor
  | lineStart
  | lineEnd
  | textStart
  | textEnd
  | boundary
  | noBoundary
deriving DecidableEq

structure Width where
  least : Nat
  most : Nat
deriving DecidableEq

namespace Width

def limit : Nat := Nat.pow 2 64

def bounded (least most : Nat) : Width := ⟨min least limit, min most limit⟩

def zero : Width := ⟨0, 0⟩

def one : Width := ⟨1, 1⟩

def add (a b : Width) : Width := bounded (a.least + b.least) (a.most + b.most)

def either (a b : Width) : Width := ⟨min a.least b.least, max a.most b.most⟩

def times (w : Width) (least : Nat) (most : Option Nat) : Width :=
  match most with
  | some n => bounded (w.least * least) (w.most * n)
  | none => bounded (w.least * least) (if w.most = 0 then 0 else limit)

end Width

inductive Node
  | nothing
  | point (c : Nat)
  | any
  | set (negated : Bool) (items : List SetItem)
  | anchor (kind : Anchor)
  | seq (first second : Node)
  | either (first second : Node)
  | repeated (mode : RepeatMode) (least : Nat) (most : Option Nat) (body : Node)
  | group (number : Nat) (body : Node)
  | flagged (added removed : Flags) (body : Node)
  | atomic (body : Node)
  | look (behind negated : Bool) (body : Node)
  | reference (number : Nat) (width : Width)
  | conditional (number : Nat) (yes no : Node)

namespace Node

def width : Node → Width
  | nothing | anchor _ | look .. => .zero
  | point _ | any | set .. => .one
  | seq a b => a.width.add b.width
  | either a b => a.width.either b.width
  | repeated _ least most body => body.width.times least most
  | group _ body | flagged _ _ body | atomic body => body.width
  | reference _ w => w
  | conditional _ yes no => yes.width.either no.width

def ofList : List Node → Node
  | [] => nothing
  | [n] => n
  | n :: rest => seq n (ofList rest)

def ofBranches : List Node → Node
  | [] => nothing
  | [n] => n
  | n :: rest => either n (ofBranches rest)

def reach : Nat := Nat.pow 2 32 - 1

def check (template : Bool) : Node → Except Fault Unit
  | nothing | point _ | any | set .. | anchor _ | reference .. => .ok ()
  | seq a b | either a b | conditional _ a b => do
    a.check template
    b.check template
  | repeated mode _ _ body =>
    if template then .error (.templateOperator mode) else body.check template
  | group _ body | flagged _ _ body | atomic body => body.check template
  | look behind _ body =>
    if behind && body.width.least > reach then .error .lookbehindReach
    else if behind && body.width.least ≠ body.width.most then .error .lookbehindWidth
    else body.check template

end Node

end AsmFixtures.Pattern
