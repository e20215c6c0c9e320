import Scriptorium.Schema.Finding
import Scriptorium.Schema.Moment
import Scriptorium.Schema.Shape
import Scriptorium.Ident
import Scriptorium.Json.Writer
import Scriptorium.Value
import Scriptorium.Value.Pairs
set_option autoImplicit false

/-!
# Checking data against schemas

Checking turns data into data of the required shape, or lists everything that is wrong with it.
Fields are checked in the order of the schema; fields that take a fresh identifier use up the
supply in that order, the fields of inner records first.
-/

namespace Scriptorium.Schema

/-- Checked data and the number of identifiers used up so far, or what is wrong. -/
abbrev Checked (α : Type) := Except (List Finding) (α × Nat)

/-- One complaint about a place. -/
def complain {α : Type} (place : List Value) (complaint : Complaint) : Except (List Finding) α :=
  .error [⟨place, complaint⟩]

/-- A text: texts stay, numbers and truth values are shown. -/
def asText [Halves] (v : Value) : Except Complaint String :=
  match v with
  | .text s => .ok s
  | .int _ | .float _ | .bool _ => .ok v.shown
  | _ => .error .notText

/-- A whole number: floats are cut, texts are read. -/
def asWhole (v : Value) : Except Complaint Int :=
  match v with
  | .int n => .ok n
  | .bool b => .ok (if b then 1 else 0)
  | .float x => match Decimal.read x with
    | .finite b => .ok b.truncate
    | .infinite _ => .error .infinite
    | .nan => .error .notWhole
  | .text s => match Text.whole? s with
    | some n => .ok n
    | none => .error .notWhole
  | _ => .error .notWhole

/-- A float: whole numbers are rounded, texts are read. -/
def asReal (v : Value) : Except Complaint Float :=
  match v with
  | .float x => .ok x
  | .int n =>
    let x := Decimal.ofInt n
    if Decimal.isFinite x then .ok x else .error .huge
  | .bool b => .ok (if b then 1 else 0)
  | .text s => match Text.real? s with
    | some x => .ok x
    | none => .error .notReal
  | _ => .error .notReal

/-- The texts that count as true, in lower case. -/
def trueTexts : List String := ["1", "on", "t", "true", "y", "yes"]

/-- The texts that count as false, in lower case. -/
def falseTexts : List String := ["0", "off", "f", "false", "n", "no"]

/-- A truth value: zero, one and some words count as one. -/
def asTruth (v : Value) : Except Complaint Bool :=
  match v with
  | .bool b => .ok b
  | .text s =>
    let s := Text.lower s
    if trueTexts.contains s then .ok true
    else if falseTexts.contains s then .ok false
    else .error .notTruth
  | other => match other.number? with
    | some n =>
      if n.same (.whole 1) then .ok true
      else if n.same (.whole 0) then .ok false
      else .error .notTruth
    | none => .error .notTruth

/-- An identifier. -/
def asIdent (v : Value) : Except Complaint Ident :=
  match v with
  | .ident i => .ok i
  | .text s => match Ident.read s with
    | .ok i => .ok i
    | .error _ => .error .notIdent
  | _ => .error .notIdent

/-- The point in time a number of seconds after the start of 1970. -/
def momentOf (n : Number) : Except Complaint Stamp :=
  match momentOfSeconds n with
  | some t => .ok t
  | none => .error .momentOfNaN

/-- A point in time. -/
def asMoment (v : Value) : Except Complaint Stamp :=
  match v with
  | .stamp t => .ok t
  | .text s => match Text.real? s with
    | some x => momentOf (.real x)
    | none => match momentOfText s with
      | some t => .ok t
      | none => .error .notMoment
  | other => match other.number? with
    | some n => momentOf n
    | none => .error .notMomentKind

/-- A text with a permitted number of characters. -/
def boundText (least : Nat) (most : Option Nat) (s : String) : Except Complaint String :=
  if s.length < least then .error (.shorter least)
  else match most with
    | some most => if most < s.length then .error (.longer most) else .ok s
    | none => .ok s

/-- A float between permitted bounds. -/
def boundReal (least most : Option Int) (x : Float) : Except Complaint Float := do
  if let some least := least then
    if !(Number.real x).ge (.whole least) then throw (.tooSmall least)
  if let some most := most then
    if !(Number.whole most).ge (.real x) then throw (.tooGreat most)
  return x

/-- Data of a shape that has no parts. -/
def scalar [Halves] {μ : Type} (shape : Shape μ) (v : Value) : Except Complaint Value :=
  match shape with
  | .text least most => do return .text (← boundText least most (← asText v))
  | .starting word => do
    let s ← asText v
    if word.toList.isPrefixOf s.toList then return .text s else throw (.notStarting word)
  | .whole => .int <$> asWhole v
  | .real least most => do return .float (← boundReal least most (← asReal v))
  | .truth => .bool <$> asTruth v
  | .member permitted => match v with
    | .text s => if permitted.contains s then .ok v else .error (.notMember permitted)
    | _ => .error (.notMember permitted)
  | .constant permitted => match v with
    | .text s => if permitted.contains s then .ok v else .error (.notConstant v permitted)
    | other => if other.isScalar then .error (.notConstant v permitted)
      else .error (.unhashable other.kind)
  | .ident => .ident <$> asIdent v
  | .moment => .stamp <$> asMoment v
  | _ => .ok v

/-- Whether a shape takes nothing as a value. -/
def Shape.takesNothing {μ : Type} : Shape μ → Bool
  | .anything => true
  | _ => false

/-- The members of a value that is no record, as far as a record can be taken from them. -/
def members : Value → Fields
  | .text _ => [("title", .list [])]
  | _ => []

/-- The named parts that a record of a fixed form is taken from. -/
def partsOf {μ : Type} (form : Form μ) (v : Value) : Except Complaint Fields :=
  match v with
  | .record fields => .ok fields
  | other =>
    if form.takesMembers then .ok (members other)
    else match other.entries? with
      | none => .error .notRecord
      | some entries =>
        match entries.mapM fun (key, value) => (key.text?).map (·, value) with
        | some fields => .ok fields
        | none => .error .namesNotTexts

/-- The data given for a field. -/
def given? {μ : Type} (form : Form μ) (field : Slot μ) (parts : Fields) : Option Value :=
  match Fields.get? parts field.key with
  | some v => some v
  | none =>
    if form.takesNames && field.key != field.name then Fields.get? parts field.name else none

/-- The value of a field that is left out; nothing if it has to be given. -/
def Fallback.fill (now : Stamp) (taken : Nat) : Fallback → Option (Value × Nat)
  | .required => none
  | .value v => some (v, taken)
  | .freshIdent => some (.ident (Ident.ofSupply (taken + 1)), taken + 1)
  | .freshText => some (.text (Ident.ofSupply (taken + 1)).text, taken + 1)
  | .now => some (.stamp now, taken)

/-- Collects results in order: all values if every one is good, all findings otherwise. -/
def gather {α β : Type} (check : α → Nat → Checked β) : List α → Nat → Checked (List β)
  | [], taken => .ok ([], taken)
  | x :: rest, taken =>
    match check x taken with
    | .ok (y, taken) =>
      match gather check rest taken with
      | .ok (ys, taken) => .ok (y :: ys, taken)
      | .error findings => .error findings
    | .error findings =>
      match gather check rest taken with
      | .ok _ => .error findings
      | .error more => .error (findings ++ more)

section

variable {μ : Type} (forms : μ → Form μ) (now : Stamp)

mutual

/-- Checks data against a shape.  The depth of the data is fuel enough. -/
def checkShape [Halves] : Nat → Shape μ → List Value → Value → Nat → Checked Value
  | 0, _, place, _, _ => complain place .notRecord
  | fuel + 1, shape, place, v, taken =>
    match shape with
    | .anything => .ok (v, taken)
    | .list item => match v with
      | .list items =>
        match gather (fun (i, x) taken => checkValue fuel item (place ++ [.int i]) x taken)
            (items.mapIdx fun i x => (i, x)) taken with
        | .ok (items, taken) => .ok (.list items, taken)
        | .error findings => .error findings
      | _ => complain place .notList
    | .mapping value => match v.entries? with
      | none => complain place .notRecord
      | some entries =>
        match gather (fun (k, x) taken =>
            match k with
            | .null => complain (place ++ [.text "__key__"]) .nothing
            | _ => match asText k with
              | .error complaint => complain (place ++ [.text "__key__"]) complaint
              | .ok name => match checkValue fuel value (place ++ [k]) x taken with
                | .ok (y, taken) => .ok ((name, y), taken)
                | .error findings => .error findings) entries taken with
        | .ok (fields, taken) => .ok (.record (Fields.merge [] fields), taken)
        | .error findings => .error findings
    | .table => match v.entries? with
      | none => complain place .notRecord
      | some entries =>
        .ok (.record (Fields.merge [] (entries.map fun (k, x) => (Json.keyName k, x))), taken)
    | .form name => match partsOf (forms name) v with
      | .error complaint => complain place complaint
      | .ok parts => match checkForm fuel (forms name) place parts taken with
        | .ok (fields, taken) => .ok (.record fields, taken)
        | .error findings => .error findings
    | _ => match scalar shape v with
      | .ok v => .ok (v, taken)
      | .error complaint => complain place complaint

/-- Checks data that has to be something. -/
def checkValue [Halves] : Nat → Shape μ → List Value → Value → Nat → Checked Value
  | 0, _, place, _, _ => complain place .notRecord
  | fuel + 1, shape, place, v, taken =>
    match v with
    | .null => if shape.takesNothing then .ok (.null, taken) else complain place .nothing
    | _ => checkShape fuel shape place v taken

/-- Checks the fields of a record. -/
def checkForm [Halves] : Nat → Form μ → List Value → Fields → Nat → Checked Fields
  | 0, _, place, _, _ => complain place .notRecord
  | fuel + 1, form, place, parts, taken =>
    gather (fun field taken =>
      let place := place ++ [.text field.key]
      match given? form field parts with
      | none => match field.fallback.fill now taken with
        | some (v, taken) => .ok ((field.name, v), taken)
        | none => complain place .missing
      | some .null =>
        if field.mayBeNothing then .ok ((field.name, .null), taken)
        else match checkValue fuel field.shape place .null taken with
          | .ok (v, taken) => .ok ((field.name, v), taken)
          | .error findings => .error findings
      | some v => match checkShape fuel field.shape place v taken with
        | .ok (v, taken) => .ok ((field.name, v), taken)
        | .error findings => .error findings) form.fields taken

end

/-- More steps than checking a value takes. -/
def fuelFor (v : Value) : Nat := 3 * v.depth + 4

/-- Checks the parts of a record against a form, `taken` identifiers being used up. -/
def checkParts [Halves] (form : Form μ) (place : List Value) (parts : Fields) (taken : Nat) :
    Checked Fields :=
  checkForm forms now (fuelFor (.record parts)) form place parts taken

/-- Checks the parts of a record of a named form. -/
def checkNamed [Halves] (name : μ) (parts : Fields) (taken : Nat) : Checked Fields :=
  checkParts forms now (forms name) [] parts taken

/-- Checks data against a shape, at a place. -/
def checkAt [Halves] (shape : Shape μ) (place : List Value) (v : Value) (taken : Nat) :
    Checked Value :=
  checkValue forms now (fuelFor v) shape place v taken

/-- The names of the fields that data gives. -/
def givenNames (name : μ) (parts : Fields) : List String :=
  ((forms name).fields.filter fun field => (given? (forms name) field parts).isSome).map (·.name)

end

end Scriptorium.Schema
