import Scriptorium.Storage.Flaw
import Scriptorium.Text.Search
import Scriptorium.Text.WordChar
set_option autoImplicit false

/-!
# Addresses of databases

An address names a kind of database and a connection, and leads to a file in the working folder
or to memory.
-/

namespace Scriptorium.Storage

/-- An address of a database. -/
structure Address where
  dialect : String
  /-- What stands before the path. -/
  host : String
  path : String
  deriving DecidableEq, Repr

/-- Where the data of a database are. -/
inductive Place where
  | memory
  /-- A file in the working folder. -/
  | file (name : String)
  deriving DecidableEq, Repr

namespace Address

/-- Reads an address. -/
def read? (s : String) : Option Address :=
  let cs := s.toList
  let isName (c : Char) : Bool := Text.isWordChar c || c = '+'
  let dialect := cs.takeWhile isName
  if dialect.isEmpty then none
  else match cs.dropWhile isName with
    | ':' :: '/' :: '/' :: rest =>
      let located := rest.takeWhile (· != '?')
      some ⟨String.ofList dialect, String.ofList (located.takeWhile (· != '/')),
        String.ofList ((located.dropWhile (· != '/')).drop 1)⟩
    | _ => none

/-- The kinds of connections to databases in files, and whether their callers need not wait. -/
def dialects : List (String × Bool) :=
  [("sqlite", false), ("sqlite+pysqlite", false), ("sqlite+aiosqlite", true)]

/-- Walks through the steps of a path, in which an empty one and a single point stay where they
are and two points go back; `walked` holds the steps walked so far, the last one first.
Nothing leads out of the folder that the walk starts in. -/
def walk : List String → List String → Option (List String)
  | walked, [] => some walked.reverse
  | walked, step :: rest =>
    if step = "" ∨ step = "." then walk walked rest
    else if step = ".." then match walked with
      | [] => none
      | _ :: before => walk before rest
    else walk (step :: walked) rest

/-- Where an address leads.  Only files in the working folder can be reached. -/
def place (a : Address) : Except Flaw Place :=
  if a.path.isEmpty || a.path = ":memory:" then .ok .memory
  else if a.path.startsWith "/" then .error .unreachable
  else match walk [] ((Text.splitAtChar '/' a.path.toList).map String.ofList) with
    | some [name] => .ok (.file name)
    | _ => .error .unreachable

/-- Where the database of a text is, for callers who do not wait. -/
def connect (s : String) : Except Flaw Place := do
  let some a := read? s | throw .noAddress
  match dialects.lookup a.dialect with
  | none => throw .noDialect
  | some patient =>
    if !a.host.isEmpty then throw .noAddress
    if !patient then throw .waiting
    a.place

end Address

end Scriptorium.Storage
