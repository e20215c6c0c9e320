import Scriptorium.Pattern.Reference
set_option autoImplicit false

/-!
# Layouts

A layout says how a value is written: fill and alignment, sign, width, separators, precision and
a letter for the notation.
-/

namespace Scriptorium.Pattern

/-- Where the padding goes. -/
inductive Align where
  | left
  | right
  | center
  /-- Between sign and digits. -/
  | inner
  deriving DecidableEq, Repr

/-- The alignment a mark stands for. -/
def Align.ofMark? (c : Char) : Option Align :=
  if c = '<' then some .left
  else if c = '>' then some .right
  else if c = '^' then some .center
  else if c = '=' then some .inner
  else none

/-- How a value is written. -/
structure Layout where
  fill : Char
  align : Align
  sign : Option Char
  /-- Whether a negative zero loses its sign. -/
  plainZero : Bool
  alternate : Bool
  width : Option Nat
  separator : Option Char
  precision : Option Nat
  /-- The letter of the notation; none asks for the plain notation of floats. -/
  letter : Option Char
  deriving DecidableEq, Repr

/-- The letters of notations that a separator goes with. -/
def separableNotations : List Char := ['d', 'e', 'f', 'g', 'E', 'G', '%', 'F']

/-- The letters of notations with digits in groups of four. -/
def basedNotations : List Char := ['b', 'o', 'x', 'X']

namespace Layout

/-- Takes a mark from the front. -/
def takeMark (mark : Char) : List Char → Bool × List Char
  | [] => (false, [])
  | c :: rest => if c = mark then (true, rest) else (false, c :: rest)

/-- Takes a sign from the front. -/
def takeSign : List Char → Option Char × List Char
  | [] => (none, [])
  | c :: rest => if c = '+' ∨ c = '-' ∨ c = ' ' then (some c, rest) else (none, c :: rest)

/-- Takes fill and alignment from the front. -/
def takeAlign : List Char → Option Char × Option Align × List Char
  | [] => (none, none, [])
  | [c] => match Align.ofMark? c with
    | some a => (none, some a, [])
    | none => (none, none, [c])
  | c :: d :: rest => match Align.ofMark? d with
    | some a => (some c, some a, rest)
    | none => match Align.ofMark? c with
      | some a => (none, some a, d :: rest)
      | none => (none, none, c :: d :: rest)

/-- Takes a number from the front, if there is one. -/
def takeNumber (cs : List Char) : Except Flaw (Option Nat × List Char) :=
  (readDigits 0 cs).map fun (n, rest) =>
    (if rest.length = cs.length then none else some n, rest)

/-- Takes a separator from the front. -/
def takeSeparator (cs : List Char) : Except Flaw (Option Char × List Char) :=
  let (comma, cs) := takeMark ',' cs
  let (underscore, cs) := takeMark '_' cs
  if comma && underscore then .error .twoSeparators
  else if underscore && cs.head? == some ',' then .error .twoSeparators
  else .ok (if comma then some ',' else if underscore then some '_' else none, cs)

/-- Takes a precision from the front. -/
def takePrecision : List Char → Except Flaw (Option Nat × List Char)
  | '.' :: rest => do
    match ← takeNumber rest with
    | (some n, rest) => return (some n, rest)
    | (none, _) => throw .noPrecision
  | cs => .ok (none, cs)

/-- Whether a separator goes with a notation. -/
def separates (mark : Char) : Option Char → Bool
  | none => true
  | some c => separableNotations.contains c || (mark == '_' && basedNotations.contains c)

/-- Reads the layout of a value of some kind, with the alignment and notation it has unless they
are given. -/
def read (kind : Kind) (align : Align) (plain : Option Char) (spec : List Char) :
    Except Flaw Layout := do
  let (fill, given, cs) := takeAlign spec
  let (sign, cs) := takeSign cs
  let (plainZero, cs) := takeMark 'z' cs
  let (alternate, cs) := takeMark '#' cs
  let (padded, cs) := if fill.isNone then takeMark '0' cs else (false, cs)
  let align := given.getD (if padded && align == .right then .inner else align)
  let fill := fill.getD (if padded then '0' else ' ')
  let (width, cs) ← takeNumber cs
  let (separator, cs) ← takeSeparator cs
  let (precision, cs) ← takePrecision cs
  let code ← match cs with
    | [] => pure plain
    | [c] => pure (some c)
    | _ => throw (.layout (String.ofList spec) kind)
  if let some mark := separator then
    if !separates mark code then throw (.separator mark (code.getD ' '))
  return ⟨fill, align, sign, plainZero, alternate, width, separator, precision, code⟩

/-- The padding before, inside and after a text of some length. -/
def padding (l : Layout) (length : Nat) : Nat × Nat × Nat :=
  let free := l.width.getD 0 - length
  match l.align with
  | .left => (0, 0, free)
  | .right => (free, 0, 0)
  | .center => (free / 2, 0, free - free / 2)
  | .inner => (0, free, 0)

/-- Padding of some length. -/
def pad (l : Layout) (count : Nat) : List Char := List.replicate count l.fill

end Layout

/-- Writes a text. -/
def layText (spec : List Char) (s : String) : Except Flaw String := do
  if spec.isEmpty then return s
  let l ← Layout.read .text .left (some 's') spec
  if l.letter != some 's' then throw (.code (l.letter.getD ' ') .text)
  if let some sign := l.sign then throw (if sign = ' ' then .textSpace else .textSign)
  if l.plainZero then throw .textZero
  if l.alternate then throw .textAlternate
  if l.align == .inner then throw .textInner
  let cs := match l.precision with
    | some n => s.toList.take n
    | none => s.toList
  let (before, _, after) := l.padding cs.length
  return String.ofList (l.pad before ++ cs ++ l.pad after)

end Scriptorium.Pattern
