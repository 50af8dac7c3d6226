/-! The shortest decimal of a number in binary double precision. A positive number is
a mantissa below 2 ^ 53 times a power of two. Its shortest decimal is the one of
fewest digits that rounds back to it, and among those the nearest to it; the
candidates at each length are the two neighbours of the number on that grid. -/

namespace AsmFixtures.Decimal

structure Binary where
  mantissa : Nat
  exponent : Int
deriving DecidableEq

structure Digits where
  digits : Nat
  exponent : Int
deriving DecidableEq

/-- The quotient to the nearest integer, a half to the even one. -/
def roundedQuotient (n d : Nat) : Nat :=
  let q := n / d
  let r := n % d
  if 2 * r < d then q else if d < 2 * r then q + 1 else if q % 2 = 0 then q else q + 1

def scaled (base : Nat) (n d : Nat) (e : Int) : Nat × Nat :=
  if 0 ≤ e then (n * Nat.pow base e.toNat, d) else (n, d * Nat.pow base (-e).toNat)

def Binary.nearest (n d : Nat) : Binary :=
  let guess : Int := (Nat.log2 n : Int) - Nat.log2 d - 52
  let (gn, gd) := scaled 2 n d (-guess)
  let fitted := if gn / gd < Nat.pow 2 52 then guess - 1 else guess
  let exponent := max fitted (-1074)
  let (en, ed) := scaled 2 n d (-exponent)
  let mantissa := roundedQuotient en ed
  if mantissa = Nat.pow 2 53 then ⟨Nat.pow 2 52, exponent + 1⟩ else ⟨mantissa, exponent⟩

def Digits.toBinary (d : Digits) : Binary :=
  let (n, m) := scaled 10 d.digits 1 d.exponent
  Binary.nearest n m

/-- The number of digits in front of the point of the positive fraction `n / d`, which
is negative or zero when zeros follow the point. -/
def pointPlace (n d : Nat) : Int :=
  let guess : Int := (Nat.toDigits 10 n).length - (Nat.toDigits 10 d).length
  let (gn, gd) := scaled 10 n d (-guess)
  if gn < gd then guess else guess + 1

/-- The neighbours of a number on the grid of `count` digits, the nearer first. -/
def Binary.neighbours (b : Binary) (count : Nat) : List Digits :=
  let (n, d) := scaled 2 b.mantissa 1 b.exponent
  let exponent := pointPlace n d - count
  let (gn, gd) := scaled 10 n d (-exponent)
  let low : Digits := ⟨gn / gd, exponent⟩
  let high : Digits := ⟨gn / gd + 1, exponent⟩
  if roundedQuotient gn gd = gn / gd then [low, high] else [high, low]

def Binary.shortest (b : Binary) : Digits :=
  (((List.range 17).findSome? fun i =>
    (b.neighbours (i + 1)).find? fun candidate => candidate.toBinary = b)).getD ⟨0, 0⟩

/-- Written with a point between the sixteenth place before it and the fourth behind
it, and otherwise with an exponent of at least two digits. -/
def Digits.text (d : Digits) : String :=
  let digits := (Nat.toDigits 10 d.digits).reverse.dropWhile (· = '0') |>.reverse
  let point : Int := (Nat.toDigits 10 d.digits).length + d.exponent
  let string (cs : List Char) := String.ofList cs
  if digits = [] then "0.0"
  else if -4 < point ∧ point ≤ 16 then
    if point ≤ 0 then "0." ++ string (List.replicate (-point).toNat '0' ++ digits)
    else if (digits.length : Int) ≤ point then
      string (digits ++ List.replicate (point.toNat - digits.length) '0') ++ ".0"
    else string (digits.take point.toNat) ++ "." ++ string (digits.drop point.toNat)
  else
    let power := point - 1
    let fraction := if digits.length = 1 then "" else "." ++ string (digits.drop 1)
    let size := toString power.natAbs
    string (digits.take 1) ++ fraction ++ "e" ++ (if power < 0 then "-" else "+") ++
      (if size.length < 2 then "0" ++ size else size)

/-- The text of the double nearest to `mantissa / 10 ^ places`. -/
def text (mantissa : Int) (places : Nat) : String :=
  let sign := if mantissa < 0 then "-" else ""
  if mantissa = 0 then "0.0"
  else
    let double := Binary.nearest mantissa.natAbs (Nat.pow 10 places)
    if 971 < double.exponent then sign ++ "inf"
    else if double.mantissa = 0 then sign ++ "0.0"
    else sign ++ double.shortest.text

end AsmFixtures.Decimal
