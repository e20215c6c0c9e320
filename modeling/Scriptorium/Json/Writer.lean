import Scriptorium.Decimal.Notation
import Scriptorium.Fault
import Scriptorium.Text.Half
import Scriptorium.Text.Quoted
import Scriptorium.Value
set_option autoImplicit false

/-!
# Writing JSON texts

A `Layout` fixes the separators and the characters that are escaped: all outside printable ASCII,
beyond the basic plane as a pair, or control characters alone.  Floats are written with the
fewest digits that read back.
-/

namespace Scriptorium.Json

variable [Halves]

/-- The texts between the parts of a written value, and whether it is written in ASCII. -/
structure Layout where
  comma : String
  colon : String
  ascii : Bool := true
  deriving Repr

/-- A blank follows every comma and colon. -/
def spaced : Layout := ⟨", ", ": ", true⟩

/-- No blanks at all. -/
def compact : Layout := ⟨",", ":", true⟩

/-- No blanks, and only control characters are escaped. -/
def packed : Layout := ⟨",", ":", false⟩

/-- The escape of one 16-bit unit. -/
def escapeUnit (unit : Nat) : List Char :=
  '\\' :: 'u' :: Text.hexDigits 4 unit

/-- The written form of one character inside a string. -/
def escapeChar (ascii : Bool) (c : Char) : List Char :=
  match c with
  | '"' => ['\\', '"']
  | '\\' => ['\\', '\\']
  | '\n' => ['\\', 'n']
  | '\r' => ['\\', 'r']
  | '\t' => ['\\', 't']
  | '\x08' => ['\\', 'b']
  | '\x0c' => ['\\', 'f']
  | c =>
    if 0x20 ≤ c.toNat ∧ (c.toNat ≤ 0x7E ∨ !ascii) then [c]
    else (Text.Half.units c).flatMap escapeUnit

/-- A text in quotes. -/
def quoteBy (ascii : Bool) (s : String) : String :=
  "\"" ++ String.ofList (s.toList.flatMap (escapeChar ascii)) ++ "\""

/-- A text in quotes, written in ASCII. -/
def quote (s : String) : String := quoteBy true s

mutual

/-- The text of a value.  Values are written however deeply they are nested; room on the stack is
not modelled here. -/
def write (layout : Layout) : Value → String
  | .null => "null"
  | .bool b => if b then "true" else "false"
  | .int n => Decimal.wholeText n
  | .float x => Decimal.json.write x
  | .text s => quoteBy layout.ascii s
  | .ident i => quote i.text
  | .stamp t => quote t.text
  | .list items => "[" ++ layout.comma.intercalate (writeItems layout items) ++ "]"
  | .record fields => "\x7b" ++ layout.comma.intercalate (writeFields layout fields) ++ "\x7d"

/-- The texts of items. -/
def writeItems (layout : Layout) : List Value → List String
  | [] => []
  | item :: rest => write layout item :: writeItems layout rest

/-- The texts of fields. -/
def writeFields (layout : Layout) : List (String × Value) → List String
  | [] => []
  | (name, value) :: rest =>
    (quoteBy layout.ascii (Key.written name) ++ layout.colon ++ write layout value) ::
      writeFields layout rest

end

/-- The name of a field whose key is any scalar: that of a text is itself. -/
def keyName : Value → String
  | .text s => s
  | key => Key.marked (write spaced key)

/-! ## Sending values

A value is sent as the bytes of its written form.  Numbers that are not finite cannot be sent,
and neither can texts that have no bytes.
-/

mutual

/-- Whether a value can be written: floats have to be finite. -/
def isWritable : Value → Bool
  | .float x => Decimal.isFinite x
  | .list items => areWritable items
  | .record fields => haveWritable fields
  | _ => true

/-- Whether all items can be written. -/
def areWritable : List Value → Bool
  | [] => true
  | v :: rest => isWritable v && areWritable rest

/-- Whether all fields can be written; so have to be keys that are floats. -/
def haveWritable : List (String × Value) → Bool
  | [] => true
  | (name, v) :: rest => !Key.isUnbounded name && isWritable v && haveWritable rest

end

/-- Why a value cannot be sent: a number is not finite, or a text has no bytes. -/
def unsendable? (v : Value) : Option Fault :=
  if !isWritable v then some (.unaccepted "Out of range float values are not JSON compliant")
  else (Text.Utf8.encodeError? (write packed v)).map .notEncodable

end Scriptorium.Json
