import Scriptorium.Ident
import Scriptorium.Number
import Scriptorium.Stamp
import Scriptorium.Text.Half
set_option autoImplicit false

/-!
# Dynamic values

Messages, template contexts, document metadata and request bodies are free-form
data.  `Value` is the one type for such data: scalars, lists, and records whose
fields keep the order in which they were first written.  Data that was read from a text holds
no identifiers and stamps; checking it against a schema puts them in.

A record is a list of named fields.  `Fields.put` keeps the place of a field that
is already there and appends one that is not, so the order of a record is the
order of first writing.
-/

namespace Scriptorium

/-- A free-form value. -/
inductive Value where
  | null
  | bool (b : Bool)
  | int (n : Int)
  | float (x : Float)
  | text (s : String)
  | ident (i : Ident)
  | stamp (t : Stamp)
  | list (items : List Value)
  | record (fields : List (String × Value))
  deriving Inhabited, Repr

/-- The named fields of a record, in the order of first writing. -/
abbrev Fields := List (String × Value)

namespace Fields

/-- The value of the first field called `name`. -/
def get? {α : Type} (fields : List (String × α)) (name : String) : Option α :=
  (fields.find? (·.1 == name)).map (·.2)

/-- Whether a field called `name` is there. -/
def has {α : Type} (fields : List (String × α)) (name : String) : Bool :=
  fields.any (·.1 == name)

/-- Writes a field: a field that is there keeps its place, a new one goes last. -/
def put {α : Type} (fields : List (String × α)) (name : String) (value : α) :
    List (String × α) :=
  match fields with
  | [] => [(name, value)]
  | (key, old) :: rest =>
    if key == name then (key, value) :: rest else (key, old) :: put rest name value

/-- Removes every field called `name`. -/
def erase {α : Type} (fields : List (String × α)) (name : String) : List (String × α) :=
  fields.filter (·.1 != name)

/-- Writes all fields of `more` in turn. -/
def merge {α : Type} (fields more : List (String × α)) : List (String × α) :=
  more.foldl (fun acc field => put acc field.1 field.2) fields

/-- The names of the fields. -/
def names {α : Type} (fields : List (String × α)) : List String := fields.map (·.1)

theorem get?_put_self {α : Type} (fields : List (String × α)) (name : String) (value : α) :
    get? (put fields name value) name = some value := by
  induction fields with
  | nil => simp [put, get?]
  | cons head rest ih =>
    obtain ⟨key, old⟩ := head
    by_cases h : key = name
    · simp [put, get?, h]
    · simp only [put, beq_iff_eq, h, if_false]
      simpa [get?, h] using ih

theorem get?_put_of_ne {α : Type} (fields : List (String × α)) {name other : String}
    (value : α) (h : other ≠ name) : get? (put fields name value) other = get? fields other := by
  induction fields with
  | nil => simp [put, get?, Ne.symm h]
  | cons head rest ih =>
    obtain ⟨key, old⟩ := head
    by_cases hk : key = name
    · subst hk
      simp [put, get?, Ne.symm h]
    · by_cases ho : key = other
      · simp [put, get?, ho, h]
      · simp only [put, beq_iff_eq, hk, if_false]
        simpa [get?, ho] using ih

/-- Writing a field that is there changes no name. -/
theorem names_put_of_mem {α : Type} (fields : List (String × α)) {name : String} (value : α)
    (h : name ∈ names fields) : names (put fields name value) = names fields := by
  induction fields with
  | nil => simp [names] at h
  | cons head rest ih =>
    obtain ⟨key, old⟩ := head
    by_cases hk : key = name
    · simp [put, names, hk]
    · have hr : name ∈ names rest := by
        simp only [names, List.map_cons, List.mem_cons] at h ⊢
        exact h.resolve_left (Ne.symm hk)
      have := ih hr
      simp only [names] at this
      simp [put, names, hk, this]

/-- Writing a field that is not there appends its name. -/
theorem names_put_of_not_mem {α : Type} (fields : List (String × α)) {name : String} (value : α)
    (h : name ∉ names fields) : names (put fields name value) = names fields ++ [name] := by
  induction fields with
  | nil => simp [put, names]
  | cons head rest ih =>
    obtain ⟨key, old⟩ := head
    simp only [names, List.map_cons, List.mem_cons, not_or] at h
    have := ih h.2
    simp only [names] at this
    simp [put, names, Ne.symm h.1, this]

end Fields

namespace Value

/-- Whether the value counts as true: nothing, zero and empty values do not. -/
def truthy : Value → Bool
  | null => false
  | bool b => b
  | int n => n != 0
  | float x => x != 0
  | text s => !s.isEmpty
  | ident _ => true
  | stamp _ => true
  | list items => !items.isEmpty
  | record fields => !fields.isEmpty

/-- The field `name` of a record; nothing for any other value. -/
def field? (v : Value) (name : String) : Option Value :=
  match v with
  | record fields => Fields.get? fields name
  | _ => none

/-- The text of a text value. -/
def text? : Value → Option String
  | text s => some s
  | _ => none

/-- The number of an integer value. -/
def int? : Value → Option Int
  | int n => some n
  | _ => none

/-- The items of a list value. -/
def list? : Value → Option (List Value)
  | list items => some items
  | _ => none

/-- The fields of a record value. -/
def record? : Value → Option Fields
  | record fields => some fields
  | _ => none

/-- A text, or nothing. -/
def ofText? : Option String → Value
  | some s => text s
  | none => null

/-- The number a value counts as: truth values are zero and one. -/
def number? : Value → Option Number
  | bool b => some (.whole (if b then 1 else 0))
  | int n => some (.whole n)
  | float x => some (.real x)
  | _ => none

/-- A number as a value. -/
def ofNumber : Number → Value
  | .whole n => int n
  | .real x => float x

mutual

/-- Equality as the program compares data: truth values count as zero and one, whole
floats equal their integers, and records do not depend on the order of their fields. -/
def same : Value → Value → Bool
  | null, null => true
  | text a, text b => a == b
  | ident a, ident b => a == b
  | stamp a, stamp b => a == b
  | list xs, list ys => sameItems xs ys
  | record xs, record ys => xs.length == ys.length && sameFields xs ys
  | a, b => match a.number?, b.number? with
    | some x, some y => x.same y
    | _, _ => false

/-- Whether two lists have the same items. -/
def sameItems : List Value → List Value → Bool
  | [], [] => true
  | x :: xs, y :: ys => same x y && sameItems xs ys
  | _, _ => false

/-- Whether every field of the first record is in the second one. -/
def sameFields : List (String × Value) → List (String × Value) → Bool
  | [], _ => true
  | (name, x) :: xs, ys => (match Fields.get? ys name with
    | some y => same x y
    | none => false) && sameFields xs ys

end

end Value

/-! ## Kinds of values

The kind of a value is what complaints about it name.
-/

/-- The kind of a value. -/
inductive Kind where
  | nothing
  | truth
  | whole
  | real
  | text
  | ident
  | stamp
  | list
  | record
  deriving DecidableEq, Repr

/-- The name of a kind in messages. -/
def Kind.label : Kind → String
  | nothing => "NoneType"
  | truth => "bool"
  | whole => "int"
  | real => "float"
  | text => "str"
  | ident => "UUID"
  | stamp => "datetime.datetime"
  | list => "list"
  | record => "dict"

/-- The kind of a value. -/
def Value.kind : Value → Kind
  | null => .nothing
  | bool _ => .truth
  | int _ => .whole
  | float _ => .real
  | text _ => .text
  | ident _ => .ident
  | stamp _ => .stamp
  | list _ => .list
  | record _ => .record

end Scriptorium

/-! ## The depth of values

How many lists and records a value nests inside each other.
-/

namespace Scriptorium.Value

mutual

/-- The number of lists and records around the innermost scalar. -/
def depth : Value → Nat
  | list items => depthItems items + 1
  | record fields => depthFields fields + 1
  | _ => 0

/-- The depth of the deepest item. -/
def depthItems : List Value → Nat
  | [] => 0
  | item :: rest => max (depth item) (depthItems rest)

/-- The depth of the deepest field. -/
def depthFields : List (String × Value) → Nat
  | [] => 0
  | (_, value) :: rest => max (depth value) (depthFields rest)

end

end Scriptorium.Value

/-! ## Keys that are no texts

The fields of a record have names.  A record that is taken from pairs may also have other scalars
for keys.  Such a key is kept as a name, its written form behind a mark that no text holds, so
that it differs from the text of the same characters.  The mark is a character of the block that
keeps halves; plain texts know no keys but texts.
-/

namespace Scriptorium.Key

variable [Halves]

/-- The character before the written form of a key that is no text. -/
def mark : Char :=
  match Halves.block with
  | some b => Char.ofNat (Text.Half.start b + 0x800)
  | none => '\uFFFD'

/-- The name for a key that is no text. -/
def marked (written : String) : String := String.ofList (mark :: written.toList)

/-- The written form of a key that is no text; nothing for the name of a text.  No character before
the private planes is a mark. -/
def unmarked? (name : String) : Option String :=
  match name.toList with
  | c :: rest =>
    if Text.Half.privatePlanes ≤ c.toNat ∧ c = mark then some (String.ofList rest) else none
  | [] => none

/-- A name as it is written. -/
def written (name : String) : String := (unmarked? name).getD name

/-- Whether a name stands for a float that is not finite. -/
def isUnbounded (name : String) : Bool :=
  match unmarked? name with
  | some s => s = "NaN" || s = "Infinity" || s = "-Infinity"
  | none => false

end Scriptorium.Key
