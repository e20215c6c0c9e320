import Scriptorium.Comment.Signature
import Scriptorium.Comment.Space
import Scriptorium.Text.Search
set_option autoImplicit false

/-!
# Block comments with tags

A block comment describes a function in its untagged lines, its parameters in lines with
`@param` and its result in lines with `@return` or `@returns`.  Each line may start with a
star.  A line without a tag continues what the last tag began; lines behind any other tag are
skipped.
-/

namespace Scriptorium.Comment

/-- What a block comment says. -/
structure Block where
  description : String := ""
  params : List Param := []
  returns : Option Returns := none
  deriving DecidableEq, Repr, Inhabited

/-- What an untagged line continues. -/
inductive Topic where
  | description
  | param
  | returns
  | skipped
  deriving DecidableEq, Repr

namespace Block

/-- A line without the star in front of it. -/
def withoutStar (line : List Char) : List Char :=
  match strip line with
  | '*' :: rest => dropOne isSpace (dropOne (· == '/') (dropOne isSpace rest))
  | line => line

/-- The lines of a comment that say something. -/
def lines (comment : String) : List (List Char) :=
  ((Text.splitAtChar '\n' comment.toList).map withoutStar).filter fun line => !line.isEmpty

/-- The text between braces at the start of a text, and what follows it. -/
def braced? (cs : List Char) : Option (List Char × List Char) := do
  let inner ← behind? ['\x7b'] cs
  let rest ← behind? ['\x7d'] (inner.dropWhile (· != '\x7d'))
  return (inner.takeWhile (· != '\x7d'), rest)

/-- The description behind a name: it stands behind a dash between spaces. -/
def dashed? (cs : List Char) : Option (List Char) := do
  let dash ← behindSpaces? cs
  let rest ← behindSpaces? (← behind? ['-'] dash)
  return restOfLine rest

/-- The parameter that is documented at the start of a text.  One whose type has an equals sign
may be left out. -/
def param? (cs : List Char) : Option Param := do
  let rest ← behindSpaces? (← behind? "@param".toList cs)
  let (type, rest) ← braced? rest
  let (name, rest) ← name? (← behindSpaces? rest)
  return ⟨String.ofList name, some (String.ofList type),
    String.ofList ((dashed? rest).getD []), !type.contains '='⟩

/-- The result that is documented at the start of a text. -/
def returns? (cs : List Char) : Option Returns := do
  let rest ← behind? "@return".toList cs
  let rest := (dropOne (· == 's') rest).dropWhile isSpace
  let (type, rest) := (braced? rest).getD ([], rest)
  return ⟨String.ofList type, String.ofList (restOfLine (rest.dropWhile isSpace))⟩

/-- Continues the description of the last parameter. -/
def continueParam (line : String) : List Param → List Param
  | [] => []
  | [p] => [{ p with description := p.description ++ "\n" ++ line }]
  | p :: ps => p :: continueParam line ps

/-- Takes an untagged line. -/
def continue' (topic : Topic) (block : Block) (line : String) : Block :=
  match topic with
  | .description =>
    { block with
      description := block.description ++ (if block.description.isEmpty then "" else "\n") ++ line }
  | .param => { block with params := continueParam line block.params }
  | .returns =>
    { block with returns := block.returns.map fun r =>
        { r with description := r.description ++ "\n" ++ line } }
  | .skipped => block

/-- Takes a line. -/
def take (state : Topic × Block) (line : List Char) : Topic × Block :=
  let (topic, block) := state
  if (behind? "@param".toList line).isSome then
    (.param, { block with params := block.params ++ (firstMatch param? line).toList })
  else if (behind? "@return".toList line).isSome then
    (.returns, { block with returns := (returns? line).or block.returns })
  else if line.head? = some '@' then (.skipped, block)
  else (topic, continue' topic block (String.ofList line))

/-- What a block comment says (`parseJSDoc`). -/
def parse (comment : String) : Block :=
  ((lines comment).foldl take (.description, {})).2

/-- What a block comment says, as a record. -/
def toValue (b : Block) : Value :=
  .record <| [("description", .text b.description),
      ("params", .list (b.params.map Param.toValue))] ++
    (b.returns.map fun r => ("returns", r.toValue)).toList

end Block

end Scriptorium.Comment
