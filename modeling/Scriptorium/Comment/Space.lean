set_option autoImplicit false

/-!
# Spaces and words in comments

The characters that comments are taken apart by: spaces, which include line breaks and the
byte order mark; line breaks; and the characters of names, which are ASCII.
-/

namespace Scriptorium.Comment

/-- Whether a character ends a line. -/
def isLineBreak (c : Char) : Bool :=
  c == '\n' || c == '\r' || c.toNat == 0x2028 || c.toNat == 0x2029

/-- Whether a character is a space. -/
def isSpace (c : Char) : Bool :=
  let n := c.toNat
  (9 ≤ n && n ≤ 13) || n == 0x20 || n == 0xA0 || n == 0x1680 || (0x2000 ≤ n && n ≤ 0x200A) ||
    n == 0x2028 || n == 0x2029 || n == 0x202F || n == 0x205F || n == 0x3000 || n == 0xFEFF

/-- Whether a character may stand in a name. -/
def isWord (c : Char) : Bool := c.isAlphanum || c == '_'

/-- A text without the spaces at its ends. -/
def strip (cs : List Char) : List Char :=
  ((cs.dropWhile isSpace).reverse.dropWhile isSpace).reverse

/-- What stands behind a mark at the start of a text. -/
def behind? : List Char → List Char → Option (List Char)
  | [], cs => some cs
  | m :: mark, c :: cs => if m = c then behind? mark cs else none
  | _ :: _, [] => none

/-- A text without its first character, if that is of a kind. -/
def dropOne (p : Char → Bool) : List Char → List Char
  | [] => []
  | c :: cs => if p c then cs else c :: cs

/-- What stands behind one or more spaces. -/
def behindSpaces? (cs : List Char) : Option (List Char) :=
  match cs with
  | c :: rest => if isSpace c then some (rest.dropWhile isSpace) else none
  | [] => none

/-- The name at the start of a text, and what follows it. -/
def name? (cs : List Char) : Option (List Char × List Char) :=
  let word := cs.takeWhile isWord
  if word.isEmpty then none else some (word, cs.dropWhile isWord)

/-- What is left of a line. -/
def restOfLine (cs : List Char) : List Char := cs.takeWhile fun c => !isLineBreak c

/-- The first result of a reader at any place of a text. -/
def firstMatch {α : Type} (reader : List Char → Option α) : List Char → Option α
  | [] => reader []
  | c :: cs => match reader (c :: cs) with
    | some found => some found
    | none => firstMatch reader cs

end Scriptorium.Comment
