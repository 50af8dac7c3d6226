import AsmFixtures.Datum

/-! Why an instruction has no encoding. Such an error concerns one combination of
arguments only. It may be attributed to the position of an argument, which then
opens its message. -/

namespace AsmFixtures

inductive Refuser
  | check
  | encoder
deriving DecidableEq

inductive Refusal
  | tooManyArguments (count : Nat)
  | immediateShape (width : Int) (unsigned : Bool)
  | immediateRange (value width : Int)
  | displacementRange (disp : Int)
  | scale (value : Int)
  | displacementSize (value : Datum)
  | requestConversion
  | encoding (text : String)
  | reported (who : Refuser) (reason : String)

namespace Refusal

def reason : Refusal → String
  | tooManyArguments count => "unexpected number of args: " ++ toString count
  | immediateShape width unsigned =>
    "unsupported immediate shape: " ++ (if unsigned then "unsigned " else "signed ") ++
      toString width ++ "-bit"
  | immediateRange value width =>
    "immediate " ++ toString value ++ " does not fit " ++ toString width ++ " bits"
  | displacementRange disp => "displacement " ++ toString disp ++ " does not fit 32 bits"
  | scale value => "invalid memory argument scale: " ++ toString value
  | displacementSize value => "invalid memory argument disp width: " ++ value.display
  | requestConversion => "encoder request conversion failed"
  | encoding text => "xed error: " ++ text
  | reported _ reason => reason

def refuser : Refusal → Refuser
  | requestConversion | encoding _ => .encoder
  | reported who _ => who
  | _ => .check

end Refusal

structure EncodeError where
  refusal : Refusal
  index : Option Int := none

namespace EncodeError

def message (e : EncodeError) : String :=
  match e.index with
  | none => e.refusal.reason
  | some i => "args[" ++ toString i ++ "] could not be encoded: " ++ e.refusal.reason

def attributed (e : EncodeError) (index : Option Int) : EncodeError := ⟨e.refusal, index⟩

end EncodeError

end AsmFixtures
