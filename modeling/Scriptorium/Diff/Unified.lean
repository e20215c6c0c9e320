import Scriptorium.Decimal.Notation
import Scriptorium.Diff.Matching
import Scriptorium.Text.Blank
set_option autoImplicit false

/-!
# Unified diffs

The edits are shown in hunks: changes together with up to three kept lines around them.  A
hunk starts with the ranges of lines it stands for in both texts; a kept line is marked with a
blank, a deleted one with `-` and an inserted one with `+`.  Lines keep their own ends, and the
parts of the diff are joined by line feeds.
-/

/-! ## Edits

The edits between two sequences cover both from end to end: what lies in a common block is
kept, and what lies between two blocks is deleted, inserted or replaced.
-/

namespace Scriptorium.Diff

variable {α : Type} [BEq α]

/-- What an edit does with its items. -/
inductive Action where
  | keep
  | replace
  | delete
  | insert
  deriving DecidableEq, Repr

/-- An edit: the items from `leftStart` up to `leftStop` of the first sequence become those from
`rightStart` up to `rightStop` of the second. -/
structure Edit where
  action : Action
  leftStart : Nat
  leftStop : Nat
  rightStart : Nat
  rightStop : Nat
  deriving DecidableEq, Repr

/-- The edit between two blocks, if anything lies between them. -/
def gap (i j left right : Nat) : List Edit :=
  if i < left ∧ j < right then [⟨.replace, i, left, j, right⟩]
  else if i < left then [⟨.delete, i, left, j, right⟩]
  else if j < right then [⟨.insert, i, left, j, right⟩]
  else []

/-- The edits from the places `i` and `j` on, through the given blocks. -/
def editsFrom : Nat → Nat → List Block → List Edit
  | _, _, [] => []
  | i, j, block :: rest =>
    gap i j block.left block.right ++
      (if block.size = 0 then []
        else [⟨.keep, block.left, block.left + block.size, block.right,
          block.right + block.size⟩]) ++
      editsFrom (block.left + block.size) (block.right + block.size) rest

/-- The edits that turn `left` into `right`. -/
def edits (left right : List α) : List Edit :=
  editsFrom 0 0 (blocks left right ++ [⟨left.length, right.length, 0⟩])

/-! ## Hunks -/

/-- The number of kept lines shown around changes. -/
def contextLines : Nat := 3

/-- Cuts a kept edit down to its last `contextLines` lines. -/
def keepTail (e : Edit) : Edit :=
  if e.action = .keep then
    { e with
      leftStart := max e.leftStart (e.leftStop - contextLines)
      rightStart := max e.rightStart (e.rightStop - contextLines) }
  else e

/-- Cuts a kept edit down to its first `contextLines` lines. -/
def keepHead (e : Edit) : Edit :=
  if e.action = .keep then
    { e with
      leftStop := min e.leftStop (e.leftStart + contextLines)
      rightStop := min e.rightStop (e.rightStart + contextLines) }
  else e

/-- Applies `f` to the first item. -/
def mapFirst {α : Type} (f : α → α) : List α → List α
  | [] => []
  | x :: rest => f x :: rest

/-- Applies `f` to the last item. -/
def mapLast {α : Type} (f : α → α) (xs : List α) : List α := (mapFirst f xs.reverse).reverse

/-- Divides edits into hunks at long kept edits; `hunk` holds the current hunk in reverse. -/
def divide : List Edit → List Edit → List (List Edit)
  | [], hunk => [hunk.reverse]
  | e :: rest, hunk =>
    if e.action = .keep ∧ 2 * contextLines < e.leftStop - e.leftStart then
      (keepHead e :: hunk).reverse :: divide rest [keepTail e]
    else divide rest (e :: hunk)

/-- Whether a hunk shows a change. -/
def showsChange (hunk : List Edit) : Bool :=
  match hunk with
  | [] => false
  | [e] => e.action != .keep
  | _ => true

/-- The hunks of a list of edits. -/
def hunks (edits : List Edit) : List (List Edit) :=
  let trimmed := mapLast keepHead (mapFirst keepTail edits)
  let divided := divide trimmed []
  divided.dropLast ++ (divided.getLast?.toList.filter showsChange)

/-- A range of lines: its first line from 1 and its length, which is left out when it is one.
An empty range stands after the line before it. -/
def rangeText (start stop : Nat) : String :=
  let size := stop - start
  if size = 1 then Decimal.wholeText (start + 1)
  else Decimal.wholeText (if size = 0 then start else start + 1) ++ "," ++ Decimal.wholeText size

/-- The items of a sequence from `start` up to `stop`. -/
def slice {α : Type} (xs : List α) (start stop : Nat) : List α := (xs.take stop).drop start

/-- The marked lines of one edit. -/
def editLines (left right : List (List Char)) (e : Edit) : List (List Char) :=
  match e.action with
  | .keep => (slice left e.leftStart e.leftStop).map (' ' :: ·)
  | .replace => (slice left e.leftStart e.leftStop).map ('-' :: ·) ++
      (slice right e.rightStart e.rightStop).map ('+' :: ·)
  | .delete => (slice left e.leftStart e.leftStop).map ('-' :: ·)
  | .insert => (slice right e.rightStart e.rightStop).map ('+' :: ·)

/-- The lines of one hunk with its heading. -/
def hunkLines (left right : List (List Char)) (hunk : List Edit) : List (List Char) :=
  match hunk.head?, hunk.getLast? with
  | some first, some last =>
    ("@@ -" ++ rangeText first.leftStart last.leftStop ++ " +" ++
      rangeText first.rightStart last.rightStop ++ " @@").toList ::
      hunk.flatMap (editLines left right)
  | _, _ => []

/-- The name of one of the compared texts, with its date if it has one. -/
structure Side where
  name : String
  date : String := ""
  deriving DecidableEq, Repr

/-- The name and date of a side as a heading shows them. -/
def Side.label (side : Side) : String :=
  if side.date.isEmpty then side.name else side.name ++ "\t" ++ side.date

/-- The parts of the unified diff of two lists of lines; there are none if nothing changed. -/
def unifiedParts (old new : Side) (left right : List (List Char)) : List (List Char) :=
  let shown := hunks (edits left right)
  if shown.isEmpty then []
  else ("--- " ++ old.label).toList :: ("+++ " ++ new.label).toList ::
    shown.flatMap (hunkLines left right)

/-- The unified diff of two texts. -/
def unified (old new : Side) (before after : String) : String :=
  let parts := unifiedParts old new (Text.linesWithEnds before.toList)
    (Text.linesWithEnds after.toList)
  "\n".intercalate (parts.map String.ofList)

end Scriptorium.Diff
