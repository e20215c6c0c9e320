import Scriptorium.Value
set_option autoImplicit false

/-!
# Records given as pairs

A record may also be given as a list of pairs.  A pair is a list of two items, a text of two
characters or a record of two fields; its first part is the key and has to be a scalar.
-/

namespace Scriptorium.Value

/-- Whether the value can be a key. -/
def isScalar : Value → Bool
  | list _ | record _ => false
  | _ => true

/-- What is wrong with an item that should be a pair. -/
inductive PairFlaw where
  /-- The item has no parts. -/
  | noParts
  /-- The item has another number of parts. -/
  | parts (count : Nat)
  /-- The first part cannot be a key. -/
  | key (value : Value)

/-- The two parts of a pair. -/
def pair (v : Value) : Except PairFlaw (Value × Value) :=
  let parts : Option (List Value) := match v with
    | list items => some items
    | text s => some (s.toList.map fun c => text (String.singleton c))
    | record fields => some (fields.map fun field => text field.1)
    | _ => none
  match parts with
  | some [key, value] => if key.isScalar then .ok (key, value) else .error (.key key)
  | some other => .error (.parts other.length)
  | none => .error .noParts

/-- Writes an entry: a key that is there keeps its place. -/
def putEntry (entries : List (Value × Value)) (key value : Value) : List (Value × Value) :=
  match entries with
  | [] => [(key, value)]
  | (k, old) :: rest =>
    if k.same key then (k, value) :: rest else (k, old) :: putEntry rest key value

/-- The entries of a record, or of a list of pairs. -/
def entries? : Value → Option (List (Value × Value))
  | record fields => some (fields.map fun (name, value) => (text name, value))
  | list items =>
    items.foldl (fun acc item => do
      let entries ← acc
      match pair item with
      | .ok (key, value) => some (putEntry entries key value)
      | .error _ => none) (some [])
  | text s => if s.isEmpty then some [] else none
  | _ => none

end Scriptorium.Value
