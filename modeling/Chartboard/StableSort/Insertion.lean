/-!
# Stable sorting by insertion

A sort is stable if elements of which neither is less than the other keep their order. For an
order that ranks the elements there is one stable result, and insertion finds it.
-/

namespace Chartboard.StableSort

variable {α : Type} (less : α → α → Bool)

/-- Puts an element behind the last one that it is not less than. The list is given from its
end. -/
def insertBack (x : α) : List α → List α
  | [] => [x]
  | y :: rest => if less x y then y :: insertBack x rest else x :: y :: rest

/-- Puts the elements of a list one after the other into a sorted one. -/
def insertAll (sorted xs : List α) : List α :=
  (xs.foldl (fun s x => insertBack less x s) sorted.reverse).reverse

/-- The elements sorted by insertion. -/
def byInsertion (xs : List α) : List α :=
  insertAll less [] xs

end Chartboard.StableSort
