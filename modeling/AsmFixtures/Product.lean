/-! Every choice of one entry from each of several domains. `choices` says what these
are; an odometer counts through the same choices, the last domain fastest, without
recursion on the domains. -/

namespace AsmFixtures

def choices {α : Type} : List (List α) → List (List α)
  | [] => [[]]
  | domain :: rest => domain.flatMap fun a => (choices rest).map (a :: ·)

theorem length_choices {α : Type} (domains : List (List α)) :
    (choices domains).length = (domains.map List.length).foldr (· * ·) 1 := by
  induction domains with
  | nil => rfl
  | cons domain rest ih =>
    have same : ∀ a, ((choices rest).map (a :: ·)).length =
        (rest.map List.length).foldr (· * ·) 1 := fun a => by rw [List.length_map, ih]
    rw [choices, List.length_flatMap, List.map_congr_left fun a _ => same a, List.map_const',
      List.sum_replicate_nat, List.map_cons, List.foldr_cons]

namespace Odometer

/-- One step of a reading under the sizes of its wheels: the last wheel that can move
does, and those behind it return to zero. After the last reading there is no step. -/
def step : List Nat → List Nat → Option (List Nat)
  | size :: sizes, digit :: digits =>
    match step sizes digits with
    | some next => some (digit :: next)
    | none =>
      if digit + 1 < size then some ((digit + 1) :: digits.map fun _ => 0) else none
  | _, _ => none

def readings (sizes : List Nat) : Nat → List Nat → List (List Nat)
  | 0, _ => []
  | count + 1, digits =>
    digits :: match step sizes digits with
      | some next => readings sizes count next
      | none => []

def entries {α : Type} (domains : List (List α)) (digits : List Nat) : List α :=
  (domains.zip digits).filterMap fun (domain, digit) => domain[digit]?

/-- Without domains there is one reading, the empty one; an empty domain leaves none. -/
def product {α : Type} (domains : List (List α)) : List (List α) :=
  if domains.any List.isEmpty then []
  else
    let sizes := domains.map List.length
    let start := sizes.map fun _ => 0
    (readings sizes (sizes.foldr (· * ·) 1) start).map (entries domains)

end Odometer

end AsmFixtures
