import Scriptorium.Value
set_option autoImplicit false

/-!
# Shapes of data

A schema lists the fields of a record.  A field has a shape, may be nothing or left out, and
may be called differently in the data than in the record that checking makes of it.
-/

namespace Scriptorium.Schema

/-- The shape of a value.  Records of a fixed form are named by `μ`. -/
inductive Shape (μ : Type) where
  | anything
  | text (least : Nat) (most : Option Nat)
  /-- A text that starts with a word. -/
  | starting (word : String)
  | whole
  | real (least most : Option Int)
  | truth
  | member (permitted : List String)
  | constant (permitted : List String)
  | ident
  | moment
  | list (item : Shape μ)
  /-- A record with text keys and values of one shape. -/
  | mapping (value : Shape μ)
  /-- A record with any keys and values. -/
  | table
  | form (name : μ)
  deriving Repr, Inhabited

/-- What a field holds when the data leaves it out. -/
inductive Fallback where
  | required
  | value (v : Value)
  | freshIdent
  | freshText
  | now
  deriving Repr

/-- A field of a record. -/
structure Slot (μ : Type) where
  name : String
  shape : Shape μ
  fallback : Fallback
  /-- Whether the field may be nothing. -/
  mayBeNothing : Bool
  /-- What the field is called in the data. -/
  key : String
  deriving Repr

/-- The form of a record. -/
structure Form (μ : Type) where
  fields : List (Slot μ)
  /-- Whether a field may be given under its own name too. -/
  takesNames : Bool := false
  /-- Whether the record may be taken from the members of any value. -/
  takesMembers : Bool := false

namespace Slot

variable {μ : Type}

/-- A field that has to be given. -/
def required (name : String) (shape : Shape μ) : Slot μ :=
  ⟨name, shape, .required, false, name⟩

/-- A field that may be nothing, and is when it is left out. -/
def optional (name : String) (shape : Shape μ) : Slot μ :=
  ⟨name, shape, .value .null, true, name⟩

/-- A field that may be left out. -/
def defaulted (name : String) (shape : Shape μ) (v : Value) : Slot μ :=
  ⟨name, shape, .value v, false, name⟩

/-- A field that takes the time of checking when it is left out. -/
def timed (name : String) : Slot μ := ⟨name, .moment, .now, false, name⟩

/-- A field that may be nothing as well. -/
def orNothing (f : Slot μ) : Slot μ := { f with mayBeNothing := true }

/-- A field that the data calls differently. -/
def called (f : Slot μ) (key : String) : Slot μ := { f with key := key }

end Slot

end Scriptorium.Schema
