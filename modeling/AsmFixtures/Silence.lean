import AsmFixtures.Text.Blank
import AsmFixtures.Text.LetterCase
import AsmFixtures.Text.Quoted
import AsmFixtures.Wildcard

/-! Which log entries are printed. A setting is a list of wildcard patterns, separated by
commas, over the names of the kinds of entries. A pattern silences the kinds that it
matches, and one after an exclamation mark prints them again; the last pattern that
matches a kind decides. Kinds that no pattern matches are silent, and without a
setting nothing is. -/

namespace AsmFixtures

inductive LogKind
  | general
  | skippedForm
  | failedEncoding
deriving DecidableEq

namespace LogKind

def all : List LogKind := [general, skippedForm, failedEncoding]

def name : LogKind → String
  | general => "default"
  | skippedForm => "skip_case"
  | failedEncoding => "encode_fail"

end LogKind

structure SilenceError where
  pattern : String

def SilenceError.message (e : SilenceError) : String :=
  "SILENCELOG: " ++ Text.quote e.pattern ++ " did not match any known LogType: " ++
    Text.join " " (LogKind.all.map LogKind.name)

structure SilenceItem where
  silenced : Bool
  pattern : String
deriving DecidableEq

def SilenceItem.matches (i : SilenceItem) (kind : LogKind) : Bool :=
  wildcardMatch i.pattern kind.name

abbrev Silence := LogKind → Bool

namespace Silence

/-- The trimmed pieces between commas, without an empty one behind the last comma. -/
def pieces (setting : String) : List String :=
  let all := (Text.split ',' (Text.lower setting)).map Text.trim
  if 1 < all.length ∧ all.getLast? = some "" then all.dropLast else all

def item (piece : String) : SilenceItem :=
  match piece.toList with
  | '!' :: pattern => ⟨false, String.ofList pattern⟩
  | _ => ⟨true, piece⟩

def refine (silence : Silence) (i : SilenceItem) : Silence :=
  fun kind => if i.matches kind then i.silenced else silence kind

def refineAll (silence : Silence) : List SilenceItem → Except SilenceError Silence
  | [] => .ok silence
  | i :: rest =>
    if LogKind.all.any i.matches then refineAll (refine silence i) rest
    else .error ⟨i.pattern⟩

def parse? : Option String → Except SilenceError Silence
  | none => .ok fun _ => false
  | some setting =>
    match pieces setting with
    | ["0"] | ["false"] => .ok fun _ => false
    | ["1"] | ["true"] | [""] => .ok fun _ => true
    | all => refineAll (fun _ => true) (all.map item)

end Silence

def logged? (setting : Option String) (kind : LogKind) (entry : String) :
    Except SilenceError String := do
  let silence ← Silence.parse? setting
  return if silence kind then "" else entry

end AsmFixtures
