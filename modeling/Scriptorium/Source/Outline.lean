import Scriptorium.Text.Blank
import Scriptorium.Text.WordChar
set_option autoImplicit false

/-!
# Outlines of script sources

A recogniser looks at the start of a text and says what it found there and how many characters
that took.  `findAll` walks a text from left to right and collects what a recogniser finds,
going on behind each find.

The outline of a script lists its functions, classes and imports in the order of the text,
with the line each starts on, and its documentation comments.  A function or class counts as
documented when a whole documentation comment stands anywhere before it.
-/

namespace Scriptorium.Source

/-! ## Finding constructs -/

/-- What is recognised at the start of a text, and the number of characters it takes. -/
abbrev Recogniser (α : Type) := List Char → Option (α × Nat)

/-- The text behind a word that a text starts with. -/
def behind? : List Char → List Char → Option (List Char)
  | [], rest => some rest
  | w :: word, c :: rest => if w = c then behind? word rest else none
  | _ :: _, [] => none

/-- The text behind one or more blanks. -/
def behindBlanks? : List Char → Option (List Char)
  | c :: rest => if Text.isBlank c then some (rest.dropWhile Text.isBlank) else none
  | [] => none

/-- Whether a name may start with the character. -/
def startsName (c : Char) : Bool :=
  ('a' ≤ c && c ≤ 'z') || ('A' ≤ c && c ≤ 'Z') || c == '_' || c == '$'

/-- Whether a name may go on with the character. -/
def continuesName (c : Char) : Bool := startsName c || ('0' ≤ c && c ≤ '9')

/-- A name at the start of a text, and the text behind it. -/
def name? : List Char → Option (List Char × List Char)
  | c :: rest =>
    if startsName c then
      some (c :: rest.takeWhile continuesName, rest.dropWhile continuesName)
    else none
  | [] => none

/-- Walks a text from index `i`, skipping the next `skip` characters, and collects what is
recognised with its index. -/
def findFrom {α : Type} (recognise : Recogniser α) : Nat → Nat → List Char → List (Nat × α)
  | _, _, [] => []
  | skip + 1, i, _ :: rest => findFrom recognise skip (i + 1) rest
  | 0, i, c :: rest =>
    match recognise (c :: rest) with
    | some (found, size) => (i, found) :: findFrom recognise (size - 1) (i + 1) rest
    | none => findFrom recognise 0 (i + 1) rest

/-- Everything a recogniser finds in a text, from left to right and without overlap, each with
the index where it starts. -/
def findAll {α : Type} (recognise : Recogniser α) (cs : List Char) : List (Nat × α) :=
  findFrom recognise 0 0 cs

/-- The line on which the character `ahead` places further on stands, from line `line` on. -/
def lineFrom : Nat → Nat → List Char → Nat
  | line, ahead + 1, c :: rest => lineFrom (if c = '\n' then line + 1 else line) ahead rest
  | line, _, _ => line

/-- The line, from 1, of the character at an index. -/
def lineAt (cs : List Char) (index : Nat) : Nat := lineFrom 1 index cs

/-- The number of characters up to the end of the first `*/`. -/
def closing? : List Char → Option Nat
  | '*' :: '/' :: _ => some 2
  | _ :: rest => (closing? rest).map (· + 1)
  | [] => none

/-- A documentation comment: from `/**` to the next `*/`. -/
def docComment : Recogniser (List Char) := fun cs =>
  match cs with
  | '/' :: '*' :: '*' :: rest => (closing? rest).map fun n => (cs.take (n + 3), n + 3)
  | _ => none

/-- Whether a documentation comment is found anywhere in a text. -/
def holdsComment : List Char → Bool
  | [] => false
  | c :: rest => (docComment (c :: rest)).isSome || holdsComment rest

/-- The documentation comments of a text. -/
def docComments (cs : List Char) : List (List Char) := (findAll docComment cs).map (·.2)

/-! ## Outlines -/

/-- How a function is written. -/
inductive FunctionForm where
  | declaration
  | arrow
  deriving DecidableEq, Repr

/-- A function of an outline. -/
structure FunctionItem where
  name : String
  line : Nat
  documented : Bool
  form : FunctionForm
  deriving DecidableEq, Repr

/-- A class of an outline. -/
structure ClassItem where
  name : String
  line : Nat
  documented : Bool
  deriving DecidableEq, Repr

/-- An import of an outline. -/
structure ImportItem where
  unit : String
  line : Nat
  deriving DecidableEq, Repr

/-- The outline of a script. -/
structure Outline where
  functions : List FunctionItem
  classes : List ClassItem
  imports : List ImportItem
  comments : List String
  deriving DecidableEq, Repr

/-- `function name (`: the name, and the text behind the bracket. -/
def declaration? (cs : List Char) : Option (List Char × List Char) := do
  let rest ← behind? "function".toList cs
  let rest ← behindBlanks? rest
  let (name, rest) ← name? rest
  match rest.dropWhile Text.isBlank with
  | '(' :: rest => some (name, rest)
  | _ => none

/-- The parameters of an arrow function: a list in brackets, or one word. -/
def parameters? : List Char → Option (List Char)
  | '(' :: rest =>
    match rest.dropWhile (· != ')') with
    | ')' :: rest => some rest
    | _ => none
  | c :: rest => if Text.isWordChar c then some (rest.dropWhile Text.isWordChar) else none
  | [] => none

/-- `const name = parameters =>`: the name, and the text behind the arrow. -/
def arrow? (cs : List Char) : Option (List Char × List Char) := do
  let rest ← behind? "const".toList cs
  let rest ← behindBlanks? rest
  let (name, rest) ← name? rest
  match rest.dropWhile Text.isBlank with
  | '=' :: rest =>
    let rest ← parameters? (rest.dropWhile Text.isBlank)
    match rest.dropWhile Text.isBlank with
    | '=' :: '>' :: rest => some (name, rest)
    | _ => none
  | _ => none

/-- A function in either form. -/
def functionHead : Recogniser (List Char × FunctionForm) := fun cs =>
  match declaration? cs with
  | some (name, rest) => some ((name, .declaration), cs.length - rest.length)
  | none => (arrow? cs).map fun (name, rest) => ((name, .arrow), cs.length - rest.length)

/-- `class name`. -/
def classHead : Recogniser (List Char) := fun cs => do
  let rest ← behind? "class".toList cs
  let rest ← behindBlanks? rest
  let (name, rest) ← name? rest
  return (name, cs.length - rest.length)

/-- The names in braces between `import` and the unit: the text behind `from`. -/
def importedNames? : List Char → Option (List Char)
  | '{' :: rest =>
    match rest.dropWhile (· != '}') with
    | '}' :: rest => do
      let rest ← behindBlanks? rest
      let rest ← behind? "from".toList rest
      behindBlanks? rest
    | _ => none
  | cs => some cs

/-- Whether the character is a quote of either kind. -/
def isQuote (c : Char) : Bool := c == '"' || c == '\''

/-- `import` with a unit in quotes: the unit. -/
def importHead : Recogniser (List Char) := fun cs => do
  let rest ← behind? "import".toList cs
  let rest ← behindBlanks? rest
  let rest ← importedNames? rest
  match rest with
  | q :: rest =>
    if isQuote q then
      let unit := rest.takeWhile (!isQuote ·)
      match rest.dropWhile (!isQuote ·) with
      | _ :: rest => if unit.isEmpty then none else some (unit, cs.length - rest.length)
      | [] => none
    else none
  | [] => none

/-- Whether a documentation comment is found in what stands before an index. -/
def documentedAt (cs : List Char) (index : Nat) : Bool := holdsComment (cs.take index)

/-- The outline of a script (`_analyze_javascript_code`). -/
def outline (cs : List Char) : Outline where
  functions := (findAll functionHead cs).map fun (i, name, form) =>
    ⟨String.ofList name, lineAt cs i, documentedAt cs i, form⟩
  classes := (findAll classHead cs).map fun (i, name) =>
    ⟨String.ofList name, lineAt cs i, documentedAt cs i⟩
  imports := (findAll importHead cs).map fun (i, unit) => ⟨String.ofList unit, lineAt cs i⟩
  comments := (docComments cs).map String.ofList

/-- The share of documented functions and classes; nothing to document counts as zero. -/
def documentedShare (documented total : Nat) : Float :=
  if total = 0 then 0 else Float.ofNat documented / Float.ofNat total

/-- The share of documented functions and classes of an outline. -/
def Outline.share (o : Outline) : Float :=
  documentedShare
    ((o.functions.filter (·.documented)).length + (o.classes.filter (·.documented)).length)
    (o.functions.length + o.classes.length)

end Scriptorium.Source
