import Chartboard.StableSort.Insertion

/-!
# Stable sorting by runs

A list is cut into runs. A stretch that is in order already is a run by itself; others are sorted
when they are needed. Neighbouring runs are merged two by two, as in a balanced tree over the
places of the list.

Where the order does not rank the elements, as when `a` is less than `b`, `b` than `c` and `c` than
`a`, the result depends on which elements are compared with each other. The steps are fixed here,
so that the result is as well. Two halves that are merged from both ends at once then may not meet,
and a list in which this happens is not sorted at all.
-/

namespace Chartboard.StableSort

variable {α : Type} (less : α → α → Bool)

/-! ## Merging -/

/-- What so many steps take from the heads of two lists, from the second one if `second` says so
of the two heads or if the first one is empty; and how many elements come from the first. -/
def takeHeads (second : α → α → Bool) : Nat → List α → List α → List α × Nat
  | 0, _, _ => ([], 0)
  | _ + 1, [], [] => ([], 0)
  | n + 1, [], y :: ys =>
    let (taken, count) := takeHeads second n [] ys
    (y :: taken, count)
  | n + 1, x :: xs, [] =>
    let (taken, count) := takeHeads second n xs []
    (x :: taken, count + 1)
  | n + 1, x :: xs, y :: ys =>
    if second x y then
      let (taken, count) := takeHeads second n (x :: xs) ys
      (y :: taken, count)
    else
      let (taken, count) := takeHeads second n xs (y :: ys)
      (x :: taken, count + 1)

/-- The first elements of the merge of two sorted lists, and how many come from the left one. -/
def takeFirst (n : Nat) (left right : List α) : List α × Nat :=
  takeHeads (fun x y => less y x) n left right

/-- The last elements of the merge of two sorted lists, from the last one on, and how many come
from the right one. -/
def takeLast (n : Nat) (left right : List α) : List α × Nat :=
  takeHeads less n right.reverse left.reverse

/-- Merges two sorted lists, beginning at the end at which the shorter one lies. -/
def merge (left right : List α) : List α :=
  let n := left.length + right.length
  if left.length ≤ right.length then (takeFirst less n left right).1
  else (takeLast less n left right).1.reverse

/-- Merges two sorted lists from both ends at once; the right one has as many elements as the left
one, or one more. The ends have to meet, with one element or none left in the middle: an order that
ranks the elements makes them meet, and under another one there may be no result. -/
def mergeHalves (left right : List α) : Option (List α) :=
  let half := left.length
  let (first, i) := takeFirst less half left right
  let (last, j) := takeLast less half left right
  if i ≤ j ∧ (half - i) + j ≤ right.length then
    some (first ++ ((left.take j).drop i ++ (right.take (right.length - j)).drop (half - i))
      ++ last.reverse)
  else none

/-! ## Short lists -/

/-- So many elements are sorted at once. -/
def shortLength : Nat := 32

/-- Two sorted pairs merged by three comparisons. -/
def mergePairs (a b c d : α) : List α :=
  let low := if less c a then c else a
  let high := if less d b then b else d
  let left := if less c a then a else if less d b then c else b
  let right := if less d b then d else if less c a then b else c
  if less right left then [low, right, left, high] else [low, left, right, high]

/-- Four elements sorted by five comparisons. -/
def sortFour (w x y z : α) : List α :=
  let (a, b) := if less x w then (x, w) else (w, x)
  let (c, d) := if less z y then (z, y) else (y, z)
  mergePairs less a b c d

/-- One half of a short list, sorted; insertion begins with four elements if the list is long
enough for that. -/
def sortHalf (fourFirst : Bool) : List α → List α
  | w :: x :: y :: z :: rest =>
    if fourFirst then insertAll less (sortFour less w x y z) rest
    else byInsertion less (w :: x :: y :: z :: rest)
  | xs => byInsertion less xs

/-- A short list, sorted in two halves. -/
def sortShort (xs : List α) : Option (List α) :=
  let half := xs.length / 2
  let fourFirst := decide (8 ≤ xs.length)
  mergeHalves less (sortHalf less fourFirst (xs.take half)) (sortHalf less fourFirst (xs.drop half))

/-! ## Runs -/

/-- Neighbouring elements, sorted or yet to be sorted. -/
structure Run (α : Type) where
  /-- The elements. -/
  elements : List α
  /-- They are in order. -/
  isSorted : Bool

/-- The elements of a run in order, with a way to sort those of a run that is not. -/
def Run.sortedBy (sort : List α → Option (List α)) (run : Run α) : Option (List α) :=
  if run.isSorted then some run.elements else sort run.elements

/-- Two neighbouring runs as one. If neither is sorted, the whole is left to be sorted later. -/
def Run.join (sort : List α → Option (List α)) (left right : Run α) : Option (Run α) :=
  if left.isSorted || right.isSorted then do
    let first ← left.sortedBy sort
    let second ← right.sortedBy sort
    pure { elements := merge less first second, isSorted := true }
  else pure { elements := left.elements ++ right.elements, isSorted := false }

/-- How many neighbours follow an element in the direction of a stretch. -/
def steps (descending : Bool) (x : α) : List α → Nat
  | [] => 0
  | y :: rest => if less y x = descending then steps descending y rest + 1 else 0

/-- The stretch at the head of a list whose elements never become less, or always do; and whether
they do. -/
def stretch : List α → Nat × Bool
  | x :: y :: rest => (steps less (less y x) x (y :: rest) + 1, less y x)
  | xs => (xs.length, false)

/-- The root of a number, near enough to choose a length by it. -/
def nearRoot (n : Nat) : Nat :=
  let shift := (1 + n.log2) / 2
  ((1 <<< shift) + (n >>> shift)) / 2

/-- The least length of a stretch that is kept as a run of a list of `n` elements. -/
def leastStretch (n : Nat) : Nat :=
  if n ≤ 4096 then min (n - n / 2) 64 else nearRoot n

/-- The first run of a list, and the rest. Without a stretch that is long enough, a short list is
sorted at once if `atOnce`, and otherwise an unsorted run is cut. -/
def cut (atOnce : Bool) (least : Nat) (xs : List α) : Option (Run α × List α) :=
  let (length, descending) := stretch less xs
  if least ≤ length then
    let run := xs.take length
    pure ({ elements := if descending then run.reverse else run, isSorted := true },
      xs.drop length)
  else if atOnce then do
    let elements ← sortShort less (xs.take shortLength)
    pure ({ elements, isSorted := true }, xs.drop shortLength)
  else pure ({ elements := xs.take least, isSorted := false }, xs.drop least)

/-- The depth in a tree over `n` places at which a run that begins at `first` and one that begins at
`middle` and ends before `last` come together: the number of leading binary digits that the middles
of the two runs have in common. -/
def treeDepth (n first middle last : Nat) : Nat :=
  let scale := (0x4000000000000000 + n - 1) / n
  let difference := (scale * (first + middle)) ^^^ (scale * (middle + last))
  if difference = 0 then 64 else 63 - difference.log2

/-- Joins a run with the pending runs in front of it that lie no higher in the tree. The pending
runs are given from the last one on, and the first of all is never joined. -/
def collapse (sort : List α → Option (List α)) (depth : Nat) :
    Run α → List (Run α × Nat) → Option (Run α × List (Run α × Nat))
  | run, (left, d) :: below :: rest =>
    if depth ≤ d then do
      let joined ← left.join less sort run
      collapse sort depth joined (below :: rest)
    else pure (run, (left, d) :: below :: rest)
  | run, pending => pure (run, pending)

/-- Cuts the rest of a list of `n` elements into runs and joins them. `place` is where the rest
begins; no more than `fuel` runs are cut. -/
def joinRuns (sort : List α → Option (List α)) (atOnce : Bool) (n : Nat) :
    (fuel place : Nat) → Run α → List (Run α × Nat) → List α → Option (Run α)
  | 0, _, run, pending, _ => Prod.fst <$> collapse less sort 0 run pending
  | _ + 1, _, run, pending, [] => Prod.fst <$> collapse less sort 0 run pending
  | fuel + 1, place, run, pending, x :: xs => do
    let (next, rest) ← cut less atOnce (leastStretch n) (x :: xs)
    let last := place + next.elements.length
    let depth := treeDepth n (place - run.elements.length) place last
    let (run, pending) ← collapse less sort depth run pending
    joinRuns sort atOnce n fuel last next ((run, depth) :: pending) rest

/-- The whole list as one run. -/
def asRun (sort : List α → Option (List α)) (atOnce : Bool) (xs : List α) : Option (Run α) :=
  joinRuns less sort atOnce xs.length (xs.length + 1) 0 { elements := [], isSorted := true } [] xs

/-- The elements sorted by runs that are sorted as soon as they are cut. -/
def bySortedRuns (xs : List α) : Option (List α) :=
  Run.elements <$> asRun less some true xs

/-! ## Long runs -/

/-- The median of the elements at three places. -/
def median (lessAt : Nat → Nat → Bool) (a b c : Nat) : Nat :=
  if lessAt a b = lessAt a c then if lessAt b c = lessAt a b then b else c else a

/-- A place whose element is likely to be near the middle of the order: the median of three of the
`n` places from `start` on, each chosen likewise if it stands for eight places or more. -/
def pivotPlace (lessAt : Nat → Nat → Bool) (start n : Nat) : Nat :=
  let eighth := n / 8
  let choose (s : Nat) : Nat := if _h : 8 ≤ eighth then pivotPlace lessAt s eighth else s
  median lessAt (choose start) (choose (start + 4 * eighth)) (choose (start + 7 * eighth))
termination_by n
decreasing_by omega

/-- The order of the elements at two places. -/
def lessAt (xs : Array α) (i j : Nat) : Bool :=
  match xs[i]?, xs[j]? with
  | some x, some y => less x y
  | _, _ => false

/-- Parts a list: elements that `goesLeft` holds of go to the left, the one at a place as told. -/
def part (goesLeft : α → Bool) (place : Nat) (placeGoesLeft : Bool) (xs : List α) :
    List α × List α :=
  let (left, right) := xs.zipIdx.partition fun (x, i) =>
    if i = place then placeGoesLeft else goesLeft x
  (left.map (·.1), right.map (·.1))

/-- Parts a list around an element of it, then the two parts likewise, no more than `limit` times
one inside the other. `ancestor` is the last element around which the list became a right part;
where the chosen element is not more than that, all that are not more are in order already. -/
def byParts : (limit : Nat) → (ancestor : Option α) → List α → Option (List α)
  | 0, _, xs => if xs.length ≤ shortLength then sortShort less xs else bySortedRuns less xs
  | limit + 1, ancestor, xs =>
    let place := pivotPlace (lessAt less xs.toArray) 0 xs.length
    match xs[place]? with
    | none => sortShort less xs
    | some pivot =>
      let (low, high) := part (less · pivot) place false xs
      if xs.length ≤ shortLength then sortShort less xs
      else if ancestor.any (fun a => !less a pivot) || low.isEmpty then
        let (equal, high) := part (fun x => !less pivot x) place true xs
        (equal ++ ·) <$> byParts limit none high
      else do
        let below ← byParts limit ancestor low
        let above ← byParts limit (some pivot) high
        pure (below ++ above)

/-- An unsorted run, sorted. -/
def sortRun (xs : List α) : Option (List α) :=
  byParts less (2 * xs.length.log2) none xs

/-- The elements sorted by runs. -/
def byRuns (xs : List α) : Option (List α) :=
  if xs.length ≤ 2 * shortLength then bySortedRuns less xs
  else do
    let run ← asRun less (sortRun less) false xs
    run.sortedBy (sortRun less)

/-- Lists of no more elements are always sorted by insertion. -/
def insertionLength : Nat := 20

/-- The elements sorted. If the order ranks them, insertion and runs have the same result. -/
def sort (xs : List α) : Option (List α) :=
  if xs.length ≤ insertionLength then some (byInsertion less xs) else byRuns less xs

end Chartboard.StableSort
