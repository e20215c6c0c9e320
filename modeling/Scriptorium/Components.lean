import Scriptorium.Value.Access
import Scriptorium.Text.Search
set_option autoImplicit false

/-!
# Components

A program consists of components with dotted names.  A component may hold others, whose names
continue its own, and may need others.  To load one, its holders are loaded first, the outermost
at the start, and then what it needs.
-/

namespace Scriptorium

/-- A component. -/
structure Component where
  name : String
  needs : List String := []
  /-- Whether it holds no others, although names may continue its own. -/
  closed : Bool := false
  deriving Repr

namespace Component

/-- The names of the holders of a component and its own, from the outside to the inside. -/
def chain (name : String) : List String :=
  let steps := (Text.splitAtChar '.' name.toList).map String.ofList
  (List.range steps.length).map fun i => ".".intercalate (steps.take (i + 1))

/-- Whether a name stands for something that holds components. -/
def isHolder (all : List Component) (name : String) : Bool :=
  all.any (fun c => (name ++ ".").toList.isPrefixOf c.name.toList) &&
    !all.any fun c => c.name = name && c.closed

/-- Finds a name among components; holders need not be components themselves. -/
def find (all : List Component) (holder : Option String) (name : String) :
    Outcome (List String) :=
  match all.find? (·.name = name) with
  | some c => .ok c.needs
  | none =>
    if isHolder all name then .ok []
    else match holder with
      | some holder =>
        .error (if isHolder all holder then .noComponent name else .notInside name holder)
      | none => .error (.noComponent name)

/-- Loads a component, its holders and what it needs, by at most `depth` needs in a row. -/
def loadWithin (all : List Component) : Nat → String → Outcome Unit
  | 0, _ => .ok ()
  | depth + 1, name =>
    let names := chain name
    (none :: names.map some).zip names |>.forM fun (holder, name) => do
      (← find all holder name).forM (loadWithin all depth)

/-- Loads a component.  A row of needs longer than the number of components goes in a circle. -/
def load (all : List Component) (name : Value) : Outcome Unit := do
  let name ← name.textFor "startswith"
  if name.isEmpty then throw (.unaccepted "Empty module name")
  if name.startsWith "." then throw (.rootless name)
  loadWithin all (all.length + 1) name

end Component

end Scriptorium
