import AsmFixtures.Text.Digit
import AsmFixtures.Text.Quoted
import AsmFixtures.Text.Pieces

/-! The arguments of the command line. Every word in front of a double hyphen is first
read as an option or as an argument; a long option may be shortened as long as it is
the only one that fits. Then the words are taken from left to right. Short options may
stand in one word, where the first that takes a value takes the rest of the word. -/

namespace AsmFixtures.CommandLine

inductive OptionName
  | help
  | outdir
  | cpuid
  | rotate
  | log
deriving DecidableEq

namespace OptionName

def all : List OptionName := [help, outdir, cpuid, rotate, log]

def letter : OptionName → Char
  | help => 'h'
  | outdir => 'o'
  | cpuid => 'c'
  | rotate => 'r'
  | log => 'L'

def long : OptionName → String
  | help => "--help"
  | outdir => "--outdir"
  | cpuid => "--cpuid"
  | rotate => "--rotate"
  | log => "--log"

def short (o : OptionName) : String := String.ofList ['-', o.letter]

def takesValue : OptionName → Bool
  | outdir | cpuid => true
  | _ => false

def ofLetter? (c : Char) : Option OptionName := all.find? (·.letter == c)

def ofName? (text : String) : Option (OptionName × Bool) :=
  match all.find? (·.short == text) with
  | some o => some (o, true)
  | none => (all.find? (·.long == text)).map (·, false)

end OptionName

structure Attached where
  separated : Bool
  text : List Char
deriving DecidableEq

inductive Word
  | argument (text : String)
  | separator
  | option (name : OptionName) (short : Bool) (attached : Option Attached)
  | unknown (text : String)
deriving DecidableEq

structure Options where
  csv : String
  outdir : String := "."
  cpuid : String := "AVX512"
  rotate : Bool := false
  log : Bool := false
deriving DecidableEq

inductive Halt
  | help
  | misuse (message : String)
deriving DecidableEq

namespace Word

def cutEquals (text : List Char) : List Char × Option (List Char) :=
  match text.span (· ≠ '=') with
  | (front, _ :: back) => (front, some back)
  | (front, []) => (front, none)

def isNumeral (text : List Char) : Bool := ! text.isEmpty && text.all Text.isDigit

/-- What follows the hyphen of a negative number: digits, or a point with digits behind
it. A line feed at the end does not count. -/
def isNumber (text : List Char) : Bool :=
  let trimmed := if text.getLast? = some '\n' then text.dropLast else text
  isNumeral trimmed ||
    match trimmed.span (· ≠ '.') with
    | (whole, _ :: fraction) => whole.all Text.isDigit && isNumeral fraction
    | _ => false

def candidates (opening : List Char) : List OptionName :=
  OptionName.all.filter fun o => opening.isPrefixOf o.long.toList

def ambiguity (text : String) (found : List OptionName) : Halt :=
  .misuse ("ambiguous option: " ++ text ++ " could match " ++
    Text.join ", " (found.map OptionName.long))

def unnamed (text : String) (behindHyphen : List Char) : Word :=
  if isNumber behindHyphen || text.toList.contains ' ' then argument text else unknown text

def ofLong (text : String) : Except Halt Word :=
  let (opening, back) := cutEquals text.toList
  match candidates opening with
  | [] => .ok (unnamed text (text.toList.drop 1))
  | [o] => .ok (option o false (back.map (⟨true, ·⟩)))
  | found => .error (ambiguity text found)

def ofShort (text : String) (c : Char) (rest : List Char) : Word :=
  match OptionName.ofLetter? c with
  | some o => option o true (some ⟨false, rest⟩)
  | none => unnamed text (c :: rest)

def ofText (text : String) : Except Halt Word :=
  match OptionName.ofName? text, cutEquals text.toList with
  | some (o, short), _ => .ok (option o short none)
  | none, (front, back) =>
    match OptionName.ofName? (String.ofList front), back with
    | some (o, short), some attached => .ok (option o short (some ⟨true, attached⟩))
    | _, _ =>
      match text.toList with
      | '-' :: '-' :: _ => ofLong text
      | '-' :: c :: rest => .ok (ofShort text c rest)
      | _ => .ok (argument text)

def ofTexts : List String → Except Halt (List Word)
  | [] => .ok []
  | text :: rest =>
    if text = "--" then .ok (separator :: rest.map argument)
    else do
      let word ← ofText text
      let words ← ofTexts rest
      return word :: words

end Word

structure Given where
  option : OptionName
  value : Option String := none

structure Spread where
  given : List Given
  pending : Option OptionName := none
  extra : Option String := none

namespace Spread

def complaint (o : OptionName) (text : String) : Halt :=
  .misuse ("argument " ++ o.short ++ "/" ++ o.long ++ ": " ++ text)

def ignored (o : OptionName) (text : List Char) : Halt :=
  complaint o ("ignored explicit argument " ++ Text.quote (String.ofList text))

def bare (o : OptionName) : Spread :=
  if o.takesValue then ⟨[], some o, none⟩ else ⟨[⟨o, none⟩], none, none⟩

def after (o : OptionName) (s : Spread) : Spread := { s with given := ⟨o, none⟩ :: s.given }

def ofAttached (o : OptionName) (short separated : Bool) : List Char → Except Halt Spread
  | [] => if o.takesValue then .ok ⟨[⟨o, some ""⟩], none, none⟩ else .error (ignored o [])
  | c :: rest =>
    if o.takesValue then .ok ⟨[⟨o, some (String.ofList (c :: rest))⟩], none, none⟩
    else if ! short || separated || c = '-' then .error (ignored o (c :: rest))
    else
      match OptionName.ofLetter? c, rest with
      | none, _ => .ok ⟨[⟨o, none⟩], none, some (String.ofList ('-' :: c :: rest))⟩
      | some next, [] => .ok (after o (bare next))
      | some next, '=' :: value => (ofAttached next true true value).map (after o)
      | some next, more => (ofAttached next true false more).map (after o)

def ofWord (o : OptionName) (short : Bool) : Option Attached → Except Halt Spread
  | none => .ok (bare o)
  | some a => ofAttached o short a.separated a.text

end Spread

/-- What was taken from the words so far; the words nobody took are held in reverse. -/
structure Taken where
  csv : Option String := none
  options : Options := { csv := "" }
  extras : List String := []

namespace Taken

def give (t : Taken) (g : Given) : Except Halt Taken :=
  match g.option with
  | .help => .error .help
  | .outdir => .ok { t with options := { t.options with outdir := g.value.getD "" } }
  | .cpuid => .ok { t with options := { t.options with cpuid := g.value.getD "" } }
  | .rotate => .ok { t with options := { t.options with rotate := true } }
  | .log => .ok { t with options := { t.options with log := true } }

def giveAll (t : Taken) (given : List Given) : Except Halt Taken := given.foldlM give t

def leave (t : Taken) (text : String) : Taken := { t with extras := text :: t.extras }

def leaveAny (t : Taken) : Option String → Taken
  | none => t
  | some text => t.leave text

/-- Takes all words. The list of instructions is the first argument, and a double hyphen
next to it is taken with it. -/
def words (t : Taken) : List Word → Except Halt Taken
  | [] => .ok t
  | .argument text :: rest =>
    match t.csv with
    | some _ => words (t.leave text) rest
    | none =>
      match rest with
      | .separator :: others => words { t with csv := some text } others
      | others => words { t with csv := some text } others
  | .separator :: rest =>
    match t.csv, rest with
    | none, .argument text :: others => words { t with csv := some text } others
    | _, others => words (t.leave "--") others
  | .unknown text :: rest => words (t.leave text) rest
  | .option o short attached :: rest => do
    let spread ← Spread.ofWord o short attached
    match spread.pending with
    | none => words (← (t.leaveAny spread.extra).giveAll spread.given) rest
    | some waiting =>
      match rest with
      | .argument value :: others =>
        words (← t.giveAll (spread.given ++ [⟨waiting, some value⟩])) others
      | _ => .error (Spread.complaint waiting "expected one argument")

def finish (t : Taken) : Except Halt Options :=
  match t.csv with
  | none => .error (.misuse "the following arguments are required: csv")
  | some csv =>
    if t.extras.isEmpty then .ok { t.options with csv := csv }
    else .error (.misuse ("unrecognized arguments: " ++ Text.join " " t.extras.reverse))

end Taken

def Options.parse (args : List String) : Except Halt Options := do
  let words ← Word.ofTexts args
  let taken ← ({} : Taken).words words
  taken.finish

end AsmFixtures.CommandLine
