import Scriptorium.Fault
set_option autoImplicit false

/-!
# Sorting by a comparison that may fail

Items are sorted stably.  A run at the front that is in order already, or strictly against it, is
taken as it is; every later item is put in place by bisection.  The later item is always compared
with the earlier one, so a failure names the later one first.
-/

namespace Scriptorium.Sorting

variable {α : Type} (less : α → α → Outcome Bool)

/-- The items that go on in the direction of the run: after `last`, as long as comparing gives
`down`.  The run is given last item first. -/
def extendRun (down : Bool) : List α → α → List α → Outcome (List α × List α)
  | run, last, [] => .ok (last :: run, [])
  | run, last, x :: rest =>
    match less x last with
    | .error f => .error f
    | .ok b =>
      if b = down then extendRun down (last :: run) x rest else .ok (last :: run, x :: rest)

/-- The run at the front, in order, and the items after it. -/
def firstRun : List α → Outcome (List α × List α)
  | [] => .ok ([], [])
  | [x] => .ok ([x], [])
  | x :: y :: rest =>
    match less y x with
    | .error f => .error f
    | .ok true => extendRun less true [x] y rest
    | .ok false => (extendRun less false [x] y rest).map fun (run, rest) => (run.reverse, rest)

/-- The place of an item in sorted ones, between two positions: behind all that it is not less
than.  The fuel is the number of positions. -/
def bisect (item : α) (sorted : List α) : Nat → Nat → Nat → Outcome Nat
  | 0, low, _ => .ok low
  | fuel + 1, low, high =>
    if low < high then
      let middle := low + (high - low) / 2
      match sorted[middle]? with
      | none => .ok low
      | some other => match less item other with
        | .error f => .error f
        | .ok true => bisect item sorted fuel low middle
        | .ok false => bisect item sorted fuel (middle + 1) high
    else .ok low

/-- Puts an item in its place. -/
def insert (sorted : List α) (item : α) : Outcome (List α) :=
  (bisect less item sorted sorted.length 0 sorted.length).map fun place =>
    sorted.take place ++ item :: sorted.drop place

/-- Sorts items. -/
def sort (items : List α) : Outcome (List α) :=
  match firstRun less items with
  | .error f => .error f
  | .ok (run, rest) => rest.foldlM (insert less) run

end Scriptorium.Sorting
