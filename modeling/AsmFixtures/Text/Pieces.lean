/-! Cutting a text at a character, joining pieces again, and the first occurrence
of one text in another. `split` keeps empty pieces, so it gives one piece more than
there are separators, and `join` undoes it. -/

namespace AsmFixtures.Text

namespace Chars

def split (separator : Char) (s : List Char) : List (List Char) :=
  s.foldr (fun c pieces => if c = separator then [] :: pieces else pieces.modifyHead (c :: ·)) [[]]

def join (separator : List Char) : List (List Char) → List Char
  | [] => []
  | [piece] => piece
  | piece :: rest => piece ++ separator ++ join separator rest

def cut? (needle : List Char) : List Char → Option (List Char × List Char)
  | [] => if needle.isEmpty then some ([], []) else none
  | c :: r =>
    if needle.isPrefixOf (c :: r) then some ([], (c :: r).drop needle.length)
    else (cut? needle r).map fun (before, behind) => (c :: before, behind)

def contains (needle s : List Char) : Bool := (cut? needle s).isSome

def removeFirst (needle s : List Char) : List Char :=
  match cut? needle s with
  | some (before, behind) => before ++ behind
  | none => s

@[simp] theorem split_nil (separator : Char) : split separator [] = [[]] := rfl

theorem split_cons (separator c : Char) (s : List Char) :
    split separator (c :: s) =
      if c = separator then [] :: split separator s
      else (split separator s).modifyHead (c :: ·) := rfl

theorem split_ne_nil (separator : Char) (s : List Char) : split separator s ≠ [] := by
  induction s with
  | nil => simp
  | cons c r ih => rw [split_cons]; split <;> simp [ih]

end Chars

def split (separator : Char) (s : String) : List String :=
  (Chars.split separator s.toList).map String.ofList

def join (separator : String) (pieces : List String) : String :=
  String.ofList (Chars.join separator.toList (pieces.map String.toList))

def concat (pieces : List String) : String := String.ofList (pieces.flatMap String.toList)

def contains (s needle : String) : Bool := Chars.contains needle.toList s.toList

def removeFirst (needle s : String) : String :=
  String.ofList (Chars.removeFirst needle.toList s.toList)

def startsWith (s opening : String) : Bool := opening.toList.isPrefixOf s.toList

def padEnd (width : Nat) (s : String) : String :=
  String.ofList (s.toList ++ List.replicate (width - s.length) ' ')

end AsmFixtures.Text
