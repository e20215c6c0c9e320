
set_option autoImplicit false

/-!
# Blank characters, words and lines

Text is divided at blanks into words and at line ends into lines.  A line keeps its end, and
a carriage return followed by a line feed is one end.
-/

namespace Scriptorium.Text

/-- The characters that separate words. -/
def isBlank (c : Char) : Bool :=
  let n := c.toNat
  (0x09 ≤ n && n ≤ 0x0D) || (0x1C ≤ n && n ≤ 0x20) || n == 0x85 || n == 0xA0 || n == 0x1680 ||
    (0x2000 ≤ n && n ≤ 0x200A) || n == 0x2028 || n == 0x2029 || n == 0x202F || n == 0x205F ||
    n == 0x3000

/-- The characters that end a line. -/
def isLineEnd (c : Char) : Bool :=
  let n := c.toNat
  (0x0A ≤ n && n ≤ 0x0D) || (0x1C ≤ n && n ≤ 0x1E) || n == 0x85 || n == 0x2028 || n == 0x2029

/-- Drops the blanks at both ends. -/
def trimChars (cs : List Char) : List Char :=
  ((cs.dropWhile isBlank).reverse.dropWhile isBlank).reverse

/-- Drops the blanks at both ends. -/
def trim (s : String) : String := String.ofList (trimChars s.toList)

/-- The words of a text: the longest runs without blanks.  `word` holds the current run in
reverse. -/
def wordsOf : List Char → List Char → List (List Char)
  | [], word => if word.isEmpty then [] else [word.reverse]
  | c :: rest, word =>
    if isBlank c then
      if word.isEmpty then wordsOf rest [] else word.reverse :: wordsOf rest []
    else wordsOf rest (c :: word)

/-- The words of a text. -/
def words (s : String) : List String := (wordsOf s.toList []).map String.ofList

/-- The lines of a text, each with its end.  `line` holds the current line in reverse. -/
def linesOf : List Char → List Char → List (List Char)
  | [], line => if line.isEmpty then [] else [line.reverse]
  | '\r' :: '\n' :: rest, line => ('\n' :: '\r' :: line).reverse :: linesOf rest []
  | c :: rest, line =>
    if isLineEnd c then (c :: line).reverse :: linesOf rest [] else linesOf rest (c :: line)

/-- The lines of a text, each with its end; joined they are the text. -/
def linesWithEnds (cs : List Char) : List (List Char) := linesOf cs []

/-- A line without its end. -/
def dropEnd (line : List Char) : List Char :=
  match line.reverse with
  | '\n' :: '\r' :: rest => rest.reverse
  | c :: rest => if isLineEnd c then rest.reverse else line
  | [] => []

/-- The lines of a text without their ends. -/
def lines (cs : List Char) : List (List Char) := (linesWithEnds cs).map dropEnd

theorem linesOf_flatten (cs line : List Char) :
    (linesOf cs line).flatten = line.reverse ++ cs := by
  fun_induction linesOf cs line <;> simp_all

/-- Nothing of a text is lost in its lines. -/
theorem linesWithEnds_flatten (cs : List Char) : (linesWithEnds cs).flatten = cs := by
  simpa [linesWithEnds] using linesOf_flatten cs []

/-! ## Ends of lines

A line may end in a line feed, a carriage return, or a carriage return before a line feed.
Files are read with every end as a line feed.
-/

/-- Lines that end in a carriage return, alone or before a line feed, end in a line feed. -/
def unifyLineEnds : List Char → List Char
  | '\r' :: '\n' :: rest => '\n' :: unifyLineEnds rest
  | '\r' :: rest => '\n' :: unifyLineEnds rest
  | c :: rest => c :: unifyLineEnds rest
  | [] => []

/-- The text with every end of a line as a line feed. -/
def withLineFeeds (s : String) : String := String.ofList (unifyLineEnds s.toList)

end Scriptorium.Text
