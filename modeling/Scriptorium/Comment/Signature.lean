import Scriptorium.Value
set_option autoImplicit false

/-!
# Documented signatures

What a comment says about the parameters and the result of a function.
-/

namespace Scriptorium.Comment

/-- A documented parameter. -/
structure Param where
  name : String
  type : Option String
  description : String
  required : Bool := true
  deriving DecidableEq, Repr, Inhabited

/-- A documented result. -/
structure Returns where
  type : String
  description : String
  deriving DecidableEq, Repr, Inhabited

/-- A parameter as a record; a type that is not given is left out. -/
def Param.toValue (p : Param) : Value :=
  .record <| [("name", .text p.name)] ++ (p.type.map fun t => ("type", .text t)).toList ++
    [("description", .text p.description), ("required", .bool p.required)]

/-- A result as a record. -/
def Returns.toValue (r : Returns) : Value :=
  .record [("type", .text r.type), ("description", .text r.description)]

end Scriptorium.Comment
