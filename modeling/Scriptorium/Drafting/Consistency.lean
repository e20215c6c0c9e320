import Scriptorium.Decimal.Binary
import Scriptorium.Fault
import Scriptorium.Text.Blank
import Scriptorium.Text.Numeral
import Scriptorium.Text.Search
set_option autoImplicit false

/-!
# Code against its documentation

Code is cut into its elements, the lines that define a function or a class.  How similar each
element is to the documentation comes from outside; the score is the mean.
-/

namespace Scriptorium.Drafting

/-- Whether a line defines a function or a class. -/
def isDefinition (line : List Char) : Bool :=
  "def ".toList.isPrefixOf line || "class ".toList.isPrefixOf line

/-- The elements of code (`_extract_code_elements`); code without any counts as one element. -/
def elements (code : String) : List String :=
  let found := ((Text.splitAtChar '\n' code.toList).map Text.trimChars).filter isDefinition
  if found.isEmpty then ["No identifiable code elements found"] else found.map String.ofList

/-! ## The mean -/

/-- Adds up items in order, starting with a given sum. -/
def sumInOrder (start : Float) (xs : List Float) : Float := xs.foldl (· + ·) start

/-- Adds eight items to eight running sums. -/
def addBlock (sums block : List Float) : List Float := List.zipWith (· + ·) sums block

/-- Eight running sums over blocks of eight, and the items that are left. -/
def runningSums : Nat → List Float → List Float → List Float × List Float
  | 0, sums, xs => (sums, xs)
  | fuel + 1, sums, xs =>
    if xs.length < 8 then (sums, xs) else runningSums fuel (addBlock sums (xs.take 8)) (xs.drop 8)

/-- Joins eight sums two by two. -/
def joinSums : List Float → Float
  | [a, b, c, d, e, f, g, h] => ((a + b) + (c + d)) + ((e + f) + (g + h))
  | xs => sumInOrder 0 xs

/-- The sum of items: short lists in order, longer ones in eight lanes, and the longest ones in
two halves, the first of them a multiple of eight long. -/
def pairwiseSum : Nat → List Float → Float
  | 0, xs => sumInOrder 0 xs
  | fuel + 1, xs =>
    let n := xs.length
    if n < 8 then sumInOrder (-0.0) xs
    else if n ≤ 128 then
      let (sums, rest) := runningSums n (xs.take 8) (xs.drop 8)
      sumInOrder (joinSums sums) rest
    else
      let half := n / 2 - n / 2 % 8
      pairwiseSum fuel (xs.take half) + pairwiseSum fuel (xs.drop half)

/-- The mean of items. -/
def mean (xs : List Float) : Float := pairwiseSum xs.length xs / Decimal.ofInt xs.length

/-! ## The report -/

/-- A similarity as a float. -/
def similarity? : Value → Option Float
  | .text s => Text.real? s
  | v => match v.number? with
    | some (.real x) => some x
    | some (.whole n) =>
      let x := Decimal.ofInt n
      if Decimal.isFinite x then some x else none
    | none => none

/-- Each element with its similarity; nothing if there are too few or one is no number. -/
def rated? : List String → List Value → Option (List (String × Float))
  | [], _ => some []
  | _ :: _, [] => none
  | e :: es, v :: vs => do
    let x ← similarity? v
    return (e, x) :: (← rated? es vs)

/-- Similarities below this are an issue. -/
def leastSimilarity : Float := 0.3

/-- The issue with an element. -/
def lowIssue (element : String) : Value :=
  let start := String.ofList (element.toList.take 50)
  .record [("element", .text element), ("issue", .text "Low documentation coverage"),
    ("suggestion", .text s!"Add documentation for: {start}...")]

/-- How consistent code is with its documentation (`analyze_code_documentation_consistency`). -/
def consistency (code : String) (similarities : List Value) : Outcome Value :=
  match rated? (elements code) similarities with
  | none => .error (.unbound "HTTPException")
  | some rated =>
    let issues := (rated.filter fun (_, x) => x < leastSimilarity).map fun (e, _) => lowIssue e
    .ok (.record [("consistency_score", .float (mean (rated.map (·.2)))),
      ("elements_analyzed", .int rated.length), ("issues_found", .int issues.length),
      ("issues", .list issues)])

end Scriptorium.Drafting
