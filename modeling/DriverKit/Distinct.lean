/-!
# Distinct items

The items of a list without those that equal an earlier one. What counts as equal is a parameter,
since versions and keys have equalities of their own.
-/

namespace DriverKit

/-- The first of every group of equal items, in the order of the list. -/
def distinctBy {Item : Type} (same : Item → Item → Bool) : List Item → List Item
  | [] => []
  | item :: rest => item :: (distinctBy same rest).filter fun later => !same item later

def distinct {Item : Type} [BEq Item] (items : List Item) : List Item :=
  distinctBy (· == ·) items

end DriverKit
