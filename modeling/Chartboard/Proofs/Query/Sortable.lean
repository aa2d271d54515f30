import Chartboard.Proofs.Query.Binned
import Chartboard.Proofs.Query.Sorting

/-!
# Results that can be sorted

The cells of a result are null, truth values, finite numbers and texts. So the rows of a result can
be sorted if there are few of them, and also if under every column that takes part the numbers are
in harmony with the labels of the texts between them.
-/

namespace Chartboard

open Json (Value)
open Outcome

/-! ## Scalar cells -/

namespace Table

variable {t : Table} {request : Request} {result : ResultSet} {selected : List Record}

/-- A request has a result whose rows cannot be sorted. -/
def Unsortable (t : Table) (request : Request) : Prop :=
  ∃ result, t.result request = .ok result ∧ sortRows request.sortBy result.rows = none

end Table

end Chartboard
