import AsmFixtures.Decimal.Shortest
import AsmFixtures.Text.Quoted

/-! Values of no particular kind, as a caller may hand them in where an argument was
expected. They are only ever shown: by the name of their type, as a literal, or as
plain text. -/

namespace AsmFixtures

inductive Datum
  | absent
  | truth (value : Bool)
  | integer (value : Int)
  /-- The number `mantissa / 10 ^ places`. -/
  | decimal (mantissa : Int) (places : Nat)
  | text (value : String)
  | list (items : List Datum)
  | fields (entries : List (String × Datum))
deriving Inhabited

namespace Datum

def typeName : Datum → String
  | absent => "NoneType"
  | truth _ => "bool"
  | integer _ => "int"
  | decimal .. => "float"
  | text _ => "str"
  | list _ => "list"
  | fields _ => "dict"

mutual

def literal : Datum → String
  | absent => "None"
  | truth true => "True"
  | truth false => "False"
  | integer value => toString value
  | decimal mantissa places => Decimal.text mantissa places
  | text value => Text.quote value
  | list items => "[" ++ Text.join ", " (literals items) ++ "]"
  | fields entries => "\x7b" ++ Text.join ", " (entryLiterals entries) ++ "\x7d"

def literals : List Datum → List String
  | [] => []
  | d :: rest => d.literal :: literals rest

def entryLiterals : List (String × Datum) → List String
  | [] => []
  | (name, d) :: rest => (Text.quote name ++ ": " ++ d.literal) :: entryLiterals rest

end

def display : Datum → String
  | text value => value
  | other => other.literal

mutual

/-- Equality by value: truth values count as the integers one and zero, and a decimal
equals the integer of the same value. -/
def same : Datum → Datum → Bool
  | absent, absent => true
  | text a, text b => a == b
  | list a, list b => sameItems a b
  | fields a, fields b => sameEntries a b
  | a, b => match a.number?, b.number? with
    | some (m, p), some (n, q) => m * Int.pow 10 q == n * Int.pow 10 p
    | _, _ => false

def sameItems : List Datum → List Datum → Bool
  | [], [] => true
  | a :: as, b :: bs => a.same b && sameItems as bs
  | _, _ => false

def sameEntries : List (String × Datum) → List (String × Datum) → Bool
  | [], [] => true
  | (n, a) :: as, (m, b) :: bs => n == m && a.same b && sameEntries as bs
  | _, _ => false

def number? : Datum → Option (Int × Nat)
  | truth value => some (if value then 1 else 0, 0)
  | integer value => some (value, 0)
  | decimal mantissa places => some (mantissa, places)
  | _ => none

end

end Datum

end AsmFixtures
