set_option autoImplicit false

/-!
# Common blocks of two sequences

Two sequences of lines are compared by repeatedly taking the longest block of equal lines and
then comparing what is left on each side of it.  Lines that are frequent in a long second
sequence do not seed a block, but a block found through other lines grows over them.

A block is found from the lengths of the equal runs that end at each pair of positions.
-/

namespace Scriptorium.Diff

variable {α : Type} [BEq α]

/-- `size` equal items: those from `left` in the first sequence and from `right` in the
second. -/
structure Block where
  left : Nat
  right : Nat
  size : Nat
  deriving DecidableEq, Repr, Inhabited

/-- The part of both sequences that is compared: from `leftStart` up to `leftStop`, and from
`rightStart` up to `rightStop`. -/
structure Window where
  leftStart : Nat
  leftStop : Nat
  rightStart : Nat
  rightStop : Nat
  deriving DecidableEq, Repr

/-- From this many items on, frequent items of the second sequence do not seed a block. -/
def frequencyFloor : Nat := 200

/-- Whether an item is too frequent in `items` to seed a block. -/
def isFrequent (items : List α) (x : α) : Bool :=
  frequencyFloor ≤ items.length && items.length / 100 + 1 < items.countP (· == x)

/-- The places of `items` where `x` stands, from `start` on. -/
def placesFrom (x : α) : List α → Nat → List Nat
  | [], _ => []
  | y :: rest, i => if y == x then i :: placesFrom x rest (i + 1) else placesFrom x rest (i + 1)

/-- For every item of the first sequence, the places of the second that it may be matched
with. -/
def seeds (left right : List α) : List (List Nat) :=
  left.map fun x => if isFrequent right x then [] else placesFrom x right 0

/-- The lengths of the equal runs that end at one item of the first sequence and at given
places of the second. -/
abbrev Runs := List (Nat × Nat)

/-- The length of the run that ends just before place `j`. -/
def runBefore (runs : Runs) (j : Nat) : Nat :=
  match j with
  | 0 => 0
  | k + 1 => ((runs.find? (·.1 == k)).map (·.2)).getD 0

/-- The runs that end at the next item of the first sequence, which stands at `places`. -/
def nextRuns (window : Window) (runs : Runs) (places : List Nat) : Runs :=
  (places.filter fun j => window.rightStart ≤ j && j < window.rightStop).map
    fun j => (j, runBefore runs j + 1)

/-- The better of a block and the runs that end at item `i`: only a longer run wins. -/
def improve (i : Nat) (best : Block) (runs : Runs) : Block :=
  runs.foldl (fun best run =>
    if best.size < run.2 then ⟨i + 1 - run.2, run.1 + 1 - run.2, run.2⟩ else best) best

/-- Walks the items of the first sequence from `i`, keeping the runs and the best block. -/
def longestRun (window : Window) : List (List Nat) → Nat → Runs → Block → Block
  | [], _, _, best => best
  | places :: rest, i, runs, best =>
    let runs := nextRuns window runs places
    longestRun window rest (i + 1) runs (improve i best runs)

/-- How many items before the given ends are equal. -/
def equalBefore : List α → List α → Nat
  | x :: xs, y :: ys => if x == y then equalBefore xs ys + 1 else 0
  | _, _ => 0

/-- Grows a block over the equal items on both sides of it, inside the window. -/
def grow (left right : List α) (window : Window) (block : Block) : Block :=
  let back := equalBefore
    ((left.take block.left).drop window.leftStart).reverse
    ((right.take block.right).drop window.rightStart).reverse
  let ahead := equalBefore
    ((left.take window.leftStop).drop (block.left + block.size))
    ((right.take window.rightStop).drop (block.right + block.size))
  ⟨block.left - back, block.right - back, block.size + back + ahead⟩

/-- The block that a window is divided at. -/
def longestBlock (left right : List α) (seeds : List (List Nat)) (window : Window) : Block :=
  let rows := (seeds.take window.leftStop).drop window.leftStart
  grow left right window
    (longestRun window rows window.leftStart [] ⟨window.leftStart, window.rightStart, 0⟩)

/-- The blocks inside a window, in order.  The window gets narrower in every step, so its
width is fuel enough. -/
def blocksIn (left right : List α) (seeds : List (List Nat)) : Nat → Window → List Block
  | 0, _ => []
  | fuel + 1, window =>
    let block := longestBlock left right seeds window
    if block.size = 0 then []
    else
      let before : Window := ⟨window.leftStart, block.left, window.rightStart, block.right⟩
      let after : Window := ⟨block.left + block.size, window.leftStop,
        block.right + block.size, window.rightStop⟩
      (if before.leftStart < before.leftStop && before.rightStart < before.rightStop then
        blocksIn left right seeds fuel before else []) ++ [block] ++
      (if after.leftStart < after.leftStop && after.rightStart < after.rightStop then
        blocksIn left right seeds fuel after else [])

/-- Joins blocks that follow each other without a gap in both sequences. -/
def joinBlocks : List Block → List Block
  | a :: b :: rest =>
    if a.left + a.size = b.left ∧ a.right + a.size = b.right then
      joinBlocks (⟨a.left, a.right, a.size + b.size⟩ :: rest)
    else a :: joinBlocks (b :: rest)
  | blocks => blocks
termination_by blocks => blocks.length

/-- The common blocks of two sequences, in order. -/
def blocks (left right : List α) : List Block :=
  joinBlocks (blocksIn left right (seeds left right) (left.length + 1)
    ⟨0, left.length, 0, right.length⟩)

end Scriptorium.Diff
