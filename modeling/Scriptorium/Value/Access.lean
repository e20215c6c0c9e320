import Scriptorium.Fault
import Scriptorium.Text.Search
set_option autoImplicit false

/-!
# Reaching into values

Free-form data is reached into step by step; each step says which kinds of value it works on
and which cause it gives for the others.
-/

namespace Scriptorium.Value

/-- The field of a record, or `default` where it is left out. -/
def getOr (v : Value) (name : String) (default : Value) : Outcome Value :=
  match v with
  | record fields => .ok ((Fields.get? fields name).getD default)
  | other => .error (.noMember other.kind.label "get")

/-- The text that a value is, which is asked for its `member`. -/
def textFor (member : String) : Value → Outcome String
  | text s => .ok s
  | other => .error (.noMember other.kind.label member)

/-- The bytes of the text that a value is. -/
def bytes [Halves] (v : Value) : Outcome (List UInt8) := do
  match Text.Utf8.encode (← v.textFor "encode") with
  | .ok bytes => return bytes
  | .error e => throw (.notEncodable e)

/-- The path of a file that a value is. -/
def filePath : Value → Outcome String
  | text s => .ok s
  | other => .error (.notFilePath other.kind)

/-- The entry of a value under a text key. -/
def entry (v : Value) (name : String) : Outcome Value :=
  match v with
  | record fields => match Fields.get? fields name with
    | some value => .ok value
    | none => .error (.missingKey (text name))
  | text _ => .error (.textIndexedBy .text)
  | list _ => .error (.listIndexedBy .text)
  | other => .error (.notSubscriptable other.kind)

/-- The items of a value, in order: of a list its items, of a text its characters, of a
record its names. -/
def items? : Value → Option (List Value)
  | list items => some items
  | text s => some (s.toList.map fun c => text (String.singleton c))
  | record fields => some (fields.map fun field => text field.1)
  | _ => none

/-- The items of a value that has some. -/
def items (v : Value) : Outcome (List Value) :=
  match v.items? with
  | some items => .ok items
  | none => .error (.notIterable v.kind)

/-- The number of items of a value. -/
def size (v : Value) : Outcome Nat :=
  match v with
  | list items => .ok items.length
  | text s => .ok s.length
  | record fields => .ok fields.length
  | other => .error (.noLength other.kind)

/-- The texts among items that all have to be texts. -/
def textsOf : List Value → Nat → Outcome (List String)
  | [], _ => .ok []
  | text s :: rest, i => (s :: ·) <$> textsOf rest (i + 1)
  | other :: _, i => .error (.joinItem i other.kind)

/-- The items of a value, all of them texts, with `separator` between them. -/
def joined (separator : String) (v : Value) : Outcome String :=
  match v.items? with
  | some items => separator.intercalate <$> textsOf items 0
  | none => .error .cannotJoin

/-- Whether the value is a record with a field of this name, a list that holds this text, or a
text that holds it. -/
def holdsName (v : Value) (name : String) : Outcome Bool :=
  match v with
  | record fields => .ok (Fields.has fields name)
  | list items => .ok (items.any fun item => item.same (text name))
  | text s => .ok (Text.occursIn name.toList s.toList)
  | other => .error (.notContainer other.kind)

/-- The first `count` items or characters of a value. -/
def firstItems (v : Value) (count : Nat) : Outcome Value :=
  match v with
  | list items => .ok (list (items.take count))
  | text s => .ok (text (String.ofList (s.toList.take count)))
  | record _ => .error .noSlice
  | other => .error (.notSubscriptable other.kind)

end Scriptorium.Value
