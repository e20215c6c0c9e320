import Scriptorium.Comment.Loose
set_option autoImplicit false

/-!
# Inherited members

Every loosely typed value has members besides its own: what all values of its kind share.  They
are methods, of which only the name and the number of parameters can be seen, and the maker of
the values of that kind, which has members of its own.  A member is looked for in the value
itself, then among those of its kind, then among those of all values.
-/

namespace Scriptorium.Comment

open Loose

/-- The kinds of values that share members. -/
inductive Ancestor where
  | anything
  | list
  | text
  | number
  | truth
  | method
  deriving DecidableEq, Repr

/-- What a member can be. -/
inductive Thing where
  | data (v : Value)
  | method (name : String) (parameters : Nat)
  /-- What makes the values of a kind. -/
  | maker (kind : Ancestor)
  /-- What holds the shared members of a kind. -/
  | shared (kind : Ancestor)
  deriving Repr

namespace Ancestor

/-- The name of a kind's maker. -/
def label : Ancestor → String
  | anything => "Object"
  | list => "Array"
  | text => "String"
  | number => "Number"
  | truth => "Boolean"
  | method => "Function"

/-- The methods that the values of a kind share, with the numbers of their parameters. -/
def methods : Ancestor → List (String × Nat)
  | anything =>
    [("__defineGetter__", 2), ("__defineSetter__", 2), ("hasOwnProperty", 1),
     ("__lookupGetter__", 1), ("__lookupSetter__", 1), ("isPrototypeOf", 1),
     ("propertyIsEnumerable", 1), ("toString", 0), ("valueOf", 0), ("toLocaleString", 0)]
  | list =>
    [("at", 1), ("concat", 1), ("copyWithin", 2), ("fill", 1), ("find", 1), ("findIndex", 1),
     ("findLast", 1), ("findLastIndex", 1), ("lastIndexOf", 1), ("pop", 0), ("push", 1),
     ("reverse", 0), ("shift", 0), ("unshift", 1), ("slice", 2), ("sort", 1), ("splice", 2),
     ("includes", 1), ("indexOf", 1), ("join", 1), ("keys", 0), ("entries", 0), ("values", 0),
     ("forEach", 1), ("filter", 1), ("flat", 0), ("flatMap", 1), ("map", 1), ("every", 1),
     ("some", 1), ("reduce", 1), ("reduceRight", 1), ("toLocaleString", 0), ("toString", 0)]
  | text =>
    [("anchor", 1), ("at", 1), ("big", 0), ("blink", 0), ("bold", 0), ("charAt", 1),
     ("charCodeAt", 1), ("codePointAt", 1), ("concat", 1), ("endsWith", 1), ("fontcolor", 1),
     ("fontsize", 1), ("fixed", 0), ("includes", 1), ("indexOf", 1), ("italics", 0),
     ("lastIndexOf", 1), ("link", 1), ("localeCompare", 1), ("match", 1), ("matchAll", 1),
     ("normalize", 0), ("padEnd", 1), ("padStart", 1), ("repeat", 1), ("replace", 2),
     ("replaceAll", 2), ("search", 1), ("slice", 2), ("small", 0), ("split", 2), ("strike", 0),
     ("sub", 0), ("substr", 2), ("substring", 2), ("sup", 0), ("startsWith", 1), ("toString", 0),
     ("trim", 0), ("trimStart", 0), ("trimEnd", 0), ("toLocaleLowerCase", 0),
     ("toLocaleUpperCase", 0), ("toLowerCase", 0), ("toUpperCase", 0), ("valueOf", 0)]
  | number =>
    [("toExponential", 1), ("toFixed", 1), ("toPrecision", 1), ("toString", 1), ("valueOf", 0),
     ("toLocaleString", 0)]
  | truth => [("toString", 0), ("valueOf", 0)]
  | method => [("apply", 2), ("bind", 1), ("call", 1), ("toString", 0)]

/-- The methods of a kind's maker. -/
def makerMethods : Ancestor → List (String × Nat)
  | anything =>
    [("assign", 2), ("getOwnPropertyDescriptor", 2), ("getOwnPropertyDescriptors", 1),
     ("getOwnPropertyNames", 1), ("getOwnPropertySymbols", 1), ("hasOwn", 2), ("is", 2),
     ("preventExtensions", 1), ("seal", 1), ("create", 2), ("defineProperties", 2),
     ("defineProperty", 3), ("freeze", 1), ("getPrototypeOf", 1), ("setPrototypeOf", 2),
     ("isExtensible", 1), ("isFrozen", 1), ("isSealed", 1), ("keys", 1), ("entries", 1),
     ("fromEntries", 1), ("values", 1)]
  | list => [("isArray", 1), ("from", 1), ("of", 0)]
  | text => [("fromCharCode", 1), ("fromCodePoint", 1), ("raw", 1)]
  | number =>
    [("isFinite", 1), ("isInteger", 1), ("isNaN", 1), ("isSafeInteger", 1), ("parseFloat", 1),
     ("parseInt", 2)]
  | truth | method => []

/-- The numbers that the maker of numbers holds. -/
def constants : Ancestor → List (String × Float)
  | number =>
    [("MAX_VALUE", 1.7976931348623157e308), ("MIN_VALUE", 5e-324), ("NaN", 0 / 0),
     ("NEGATIVE_INFINITY", -1 / 0), ("POSITIVE_INFINITY", 1 / 0),
     ("MAX_SAFE_INTEGER", 9007199254740991), ("MIN_SAFE_INTEGER", -9007199254740991),
     ("EPSILON", 2.220446049250313e-16)]
  | _ => []

/-- The other names of methods. -/
def usualName : String → String
  | "trimLeft" => "trimStart"
  | "trimRight" => "trimEnd"
  | name => name

/-- A method of a table. -/
def method? (table : List (String × Nat)) (name : String) : Option Thing :=
  (table.lookup (usualName name)).map (.method (usualName name))

/-- A shared member of a kind, without those of all values. -/
def own? (kind : Ancestor) (name : String) : Outcome (Option Thing) :=
  if name = "constructor" then .ok (some (.maker kind))
  else match kind, name with
    | .list, "length" | .text, "length" | .method, "length" => .ok (some (.data (.int 0)))
    | .method, "name" => .ok (some (.data (.text "")))
    | .method, "arguments" | .method, "caller" => .error .restricted
    | _, _ => .ok (method? kind.methods name)

/-- A shared member of a kind. -/
def find? (kind : Ancestor) (name : String) : Outcome (Option Thing) := do
  match ← kind.own? name with
  | some found => return some found
  | none => anything.own? name

end Ancestor

namespace Thing

/-- The kind of a value; nothing has none. -/
def kindOf? : Value → Option Ancestor
  | .null => none
  | .bool _ => some .truth
  | .int _ | .float _ => some .number
  | .text _ | .ident _ | .stamp _ => some .text
  | .list _ => some .list
  | .record _ => some .anything

/-- A member of a thing's own. -/
def own? [Halves] (t : Thing) (name : String) : Outcome (Option Thing) :=
  match t with
  | .data v => do return (← Loose.member (some v) name).map .data
  | .method label parameters => match name with
    | "name" => .ok (some (.data (.text label)))
    | "length" => .ok (some (.data (.int parameters)))
    | _ => .ok none
  | .maker kind => match name with
    | "name" => .ok (some (.data (.text kind.label)))
    | "length" => .ok (some (.data (.int 1)))
    | "prototype" => .ok (some (.shared kind))
    | _ => .ok ((Ancestor.method? kind.makerMethods name) <|>
        (kind.constants.lookup name).map fun x => .data (.float x))
  | .shared kind => kind.own? name

/-- What holds the members that a thing shares with others. -/
def parent : Thing → Thing
  | .data v => ((kindOf? v).map .shared).getD (.data .null)
  | .method _ _ | .maker _ => .shared .method
  | .shared .anything => .data .null
  | .shared _ => .shared .anything

/-- A member of a thing that may be absent, its own or an inherited one. -/
def member [Halves] (t : Option Thing) (name : String) : Outcome (Option Thing) :=
  match t with
  | none => .error (.memberOfNothing "undefined" name)
  | some t => do
    match ← t.own? name with
    | some found => return some found
    | none =>
      if name = "__proto__" then return some t.parent
      match t.parent with
      | .shared kind => kind.find? name
      | _ => return none

/-- The value of a thing that may be absent; methods have none. -/
def value : Option Thing → Value
  | some (.data v) => settle v
  | some (.shared .anything) => .record []
  | some (.shared .list) => .list []
  | some (.shared .text) => .text ""
  | some (.shared .number) => .int 0
  | some (.shared .truth) => .bool false
  | _ => .null

end Thing

end Scriptorium.Comment
