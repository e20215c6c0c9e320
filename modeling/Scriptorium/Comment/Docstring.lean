import Scriptorium.Comment.Signature
import Scriptorium.Comment.Space
import Scriptorium.Text.Search
set_option autoImplicit false

/-!
# Docstrings with sections

A docstring lists the parameters of a function in a section under `Args:` and describes its
result under `Returns:`.  A section ends before a line that starts with a name and a colon.
If there are several lists of parameters the last one counts.
-/

namespace Scriptorium.Comment

/-- What a docstring says; a section that is not there says nothing. -/
structure Docstring where
  params : Option (List Param) := none
  returns : Option Returns := none
  deriving DecidableEq, Repr, Inhabited

namespace Docstring

/-- Whether a line starts with a name and a colon. -/
def isHeading (line : List Char) : Bool :=
  match name? line with
  | some (_, ':' :: _) => true
  | _ => false

/-- The text up to the next heading, and what follows it. -/
def upToHeading : List Char → List Char × List Char
  | [] => ([], [])
  | c :: rest =>
    if c = '\n' && isHeading rest then ([], c :: rest)
    else
      let (text, after) := upToHeading rest
      (c :: text, after)

/-- What stands behind the last line feed of a run of spaces. -/
def behindLastFeed? (spaces : List Char) : Option (List Char) :=
  if spaces.contains '\n' then some (spaces.reverse.takeWhile (· != '\n')).reverse else none

/-- The list of parameters at the start of a text, and what follows it. -/
def argsAt? (cs : List Char) : Option (List Char × List Char) := do
  let rest ← behind? "Args:".toList cs
  let indent ← behindLastFeed? (rest.takeWhile isSpace)
  return upToHeading (indent ++ rest.dropWhile isSpace)

/-- The lists of parameters of a text; `skip` characters belong to the list found last. -/
def argsFrom : Nat → List Char → List (List Char)
  | _, [] => []
  | skip + 1, _ :: rest => argsFrom skip rest
  | 0, c :: rest => match argsAt? (c :: rest) with
    | some (text, after) => text :: argsFrom (rest.length - after.length) rest
    | none => argsFrom 0 rest

/-- The type behind a name: it stands behind a colon and has no spaces. -/
def typed? (cs : List Char) : Option (List Char × List Char) := do
  let rest := (← behind? [':'] cs).dropWhile isSpace
  let type := rest.takeWhile fun c => !isSpace c
  if type.isEmpty then none else some (type, rest.dropWhile fun c => !isSpace c)

/-- The parameter of a line. -/
def param? (line : List Char) : Option Param := do
  let (name, rest) ← name? (line.dropWhile isSpace)
  let (type, rest) := match typed? rest with
    | some (type, rest) => (some (String.ofList type), rest)
    | none => (none, rest)
  let rest := (dropOne (· == ':') (rest.dropWhile isSpace)).dropWhile isSpace
  return ⟨String.ofList name, type, String.ofList (strip (restOfLine rest)), true⟩

/-- The parameters of a list. -/
def paramsOf (text : List Char) : List Param := (Text.splitAtChar '\n' text).filterMap param?

/-- Whether a run of spaces can be a result of its own: something is left of it behind a line
feed. -/
def holdsBlank (spaces : List Char) : Bool :=
  match spaces.dropWhile (· != '\n') with
  | _ :: _ :: _ => true
  | _ => false

/-- The result at the start of a text: its type goes up to a colon, its description up to the
next heading.  The type may be blank if a space is left for it. -/
def returnsAt? (cs : List Char) : Option Returns := do
  let rest ← behind? "Returns:".toList cs
  let spaces := rest.takeWhile isSpace
  let rest := rest.dropWhile isSpace
  if !spaces.contains '\n' then none
  let type := rest.takeWhile (· != ':')
  if type.isEmpty && !holdsBlank spaces then none
  let after := (dropOne (· == ':') (rest.dropWhile (· != ':'))).dropWhile isSpace
  return ⟨String.ofList (strip type), String.ofList (strip (upToHeading after).1)⟩

/-- What a docstring says (`parsePythonDocstring`). -/
def parse (docstring : String) : Docstring where
  params := (argsFrom 0 docstring.toList).getLast?.map paramsOf
  returns := firstMatch returnsAt? docstring.toList

/-- The fields of what a docstring says. -/
def toFields (d : Docstring) : Fields :=
  (d.params.map fun ps => ("params", .list (ps.map Param.toValue))).toList ++
    (d.returns.map fun r => ("returns", r.toValue)).toList

end Docstring

end Scriptorium.Comment
