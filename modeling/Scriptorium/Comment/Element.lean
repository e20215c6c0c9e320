import Scriptorium.Comment.Block
import Scriptorium.Comment.Docstring
import Scriptorium.Comment.Loose
set_option autoImplicit false

/-!
# Documented elements of source files

The functions of a source file with what their comments say.  Trees come from a parser of the
file's language; a tree that cannot be walked to its end gives the functions up to that place.
-/

namespace Scriptorium.Comment

open Loose

variable [Halves]

/-- Says `text` if a value that may be absent is that text. -/
def isText (v : Option Value) (text : String) : Bool := v.bind Value.text? == some text

/-! ## Comments in trees -/

/-- The description in the first of the comments before a node, if it is a line comment
(`extractInlineComment`). -/
def inlineComment (comments : Option Value) : Outcome (Option String) := do
  if !truthy (member? comments "length") then return none
  let first ← member comments "0"
  if !isText (← member first "type") "CommentLine" then return none
  match ← member first "value" with
  | some (.text s) => return some (String.ofList (strip s.toList))
  | v =>
    let _ ← member v "trim"
    throw (.notFunction "comment.value.trim")

/-- The docstring of a node (`extractPythonDocstring`): a text as its first statement. -/
def nodeDocstring (node : Option Value) : Outcome (Option Value) := do
  let body ← member node "body"
  if !truthy (member? body "length") then return none
  let first ← member body "0"
  if !isText (← member first "type") "Expr" then return none
  let value ← member first "value"
  if !isText (← member value "type") "Str" then return none
  member value "s"

/-- What a docstring of any kind says. -/
def docstringFields (docstring : Option Value) : Outcome Fields :=
  if !truthy docstring then .ok []
  else match docstring with
    | some (.text s) => .ok (Docstring.parse s).toFields
    | _ => .error (.notFunction "docstring.matchAll")

/-- What a block comment of any kind says. -/
def blockOf (comment : Option Value) : Outcome Block :=
  match comment with
  | some (.text s) => .ok (Block.parse s)
  | v => do
    let _ ← member v "split"
    throw (.notFunction "comment.split")

/-! ## Files -/

/-- The last part of a path that is not empty. -/
def lastPart (path : List Char) : List Char :=
  ((path.reverse.dropWhile (· == '/')).takeWhile (· != '/')).reverse

/-- The extension of a path: from the last point of its last part on.  A part has none if
nothing stands before the point or the part is two points. -/
def extension (path : List Char) : List Char :=
  let part := lastPart path
  let suffix := (part.reverse.takeWhile (· != '.')).reverse
  if suffix.length = part.length || suffix.length + 1 = part.length || part = ['.', '.'] then []
  else '.' :: suffix

/-- A place in a text that is given as a number, of which there are `length`. -/
def placeOf (length : Nat) (v : Option Value) : Outcome Nat := do
  if !truthy v then return 0
  match Decimal.read (← number v) with
  | .finite b => return min length b.truncate.toNat
  | .infinite negative => return if negative then 0 else length
  | .nan => return 0

/-- The part of a text between two places, in either order. -/
def between (content : Value) (a b : Option Value) : Outcome String :=
  match content with
  | .text s => do
    let us := units s
    let i ← placeOf us.length a
    let j ← placeOf us.length b
    return ofUnits (slice (min i j) (max i j) us)
  | _ => .error (.notFunction "content.substring")

/-- A member, or zero if it does not count as true. -/
def orZero (v : Option Value) : Value :=
  if truthy v then settle (v.getD .null) else .int 0

/-- The element of a function's node. -/
def functionElement (path content : Value) (node : Option Value) : Outcome Value := do
  let docstring ← nodeDocstring node
  let code ← between content (member? node "start") (member? node "end")
  let said ← docstringFields docstring
  return .record <| [("type", .text "function")] ++
    ((member? node "name").map fun v => ("name", settle v)).toList ++
    [("docstring", if truthy docstring then settle (docstring.getD .null) else .null),
     ("code", .text code),
     ("startLine", orZero (member? node "lineno")),
     ("endLine", orZero (member? node "end_lineno")),
     ("filePath", path)] ++ said

/-- The elements of the nodes up to one that cannot be walked (`parsePython`). -/
def elementsOf (path content : Value) : List Value → List Value
  | [] => []
  | node :: rest =>
    match member (some node) "type" with
    | .error _ => []
    | .ok kind =>
      if isText kind "FunctionDef" then
        match functionElement path content (some node) with
        | .error _ => []
        | .ok e => e :: elementsOf path content rest
      else elementsOf path content rest

/-- What stands for a value that should be a path. -/
def received : Option Value → String
  | none => "undefined"
  | some .null => "null"
  | some (.bool b) => s!"type boolean ({b})"
  | some (.int n) => s!"type number ({floatStyle.write (Decimal.ofInt n)})"
  | some (.float x) => s!"type number ({floatStyle.write x})"
  | some (.list _) => "an instance of Array"
  | some _ => "an instance of Object"

/-- The elements of a file, whose tree is absent if it could not be parsed (`parseFile`).  Only
trees of Python files can be walked. -/
def fileElements (path : Option Value) (content : Value) (tree : Option Value) :
    Outcome (List Value) :=
  match path with
  | some (.text name) =>
    if (extension name.toList).map Char.toLower = ".py".toList then
      match member? tree "body" with
      | some (.list nodes) => .ok (elementsOf (.text name) content nodes)
      | _ => .ok []
    else .ok []
  | other => .error (.notPath (received other))

end Scriptorium.Comment
