import Scriptorium.Fault
import Scriptorium.Json.Writer
import Scriptorium.Stamp.Reading
import Scriptorium.Storage.Catalog
import Scriptorium.Storage.Real
set_option autoImplicit false

/-!
# Cells

What is stored of a value in a column.  The program turns the value into a text, a number or
nothing, by the type of the column; the database then turns numbers into texts in columns of
texts, and texts that read as numbers into numbers in all others.
-/

namespace Scriptorium.Storage

variable [Halves]

/-! ## What the program hands over -/

/-- A value of a column without a form of its own. -/
def bindPlain (v : Value) : Outcome Value :=
  match v with
  | .int n =>
    if fitsWord n then .ok v
    else .error (.outOfRange "Python int too large to convert to SQLite INTEGER")
  | .bool b => .ok (.int (if b then 1 else 0))
  | .float x => match Decimal.read x with
    | .nan => .ok .null
    | _ => .ok v
  | .text s => match Text.Utf8.encodeError? s with
    | some e => .error (.notEncodable e)
    | none => .ok v
  | .null => .ok v
  | _ => .error (.storage .unbindable)

/-- A truth value as a number. -/
def bindTruth (v : Value) : Outcome Value :=
  match v.number? with
  | some n =>
    if n.same (.whole 1) then .ok (.int 1)
    else if n.same (.whole 0) then .ok (.int 0)
    else .error (.storage .unfit)
  | none => .error (.storage .unfit)

/-- A point in time as a text with all six digits of the microseconds and without a zone. -/
def momentText (t : Stamp) : String :=
  let whole : Stamp := ⟨t.micros.fdiv 1000000 * 1000000, none⟩
  whole.textWith " " ++ "." ++ Stamp.padded 6 (t.micros - whole.micros).toNat

/-- A point in time. -/
def bindMoment (v : Value) : Outcome Value :=
  match v with
  | .stamp t => .ok (.text (momentText t))
  | _ => .error (.storage .unfit)

/-- A value as it is given for a column: texts for points in time are read. -/
def takeFor (type : ColumnType) (v : Value) : Outcome Value :=
  match type, v with
  | .moment, .text s => match Stamp.read s with
    | .ok t => .ok (.stamp t)
    | .error e => .error (.unaccepted (e.message s))
  | _, v => .ok v

/-- What the program hands over for a value. -/
def bindTo (type : ColumnType) (v : Value) : Outcome Value :=
  match type, v with
  | .json, v => .ok (.text (Json.write Json.spaced v))
  | _, .null => .ok .null
  | .truth, v => bindTruth v
  | .moment, v => bindMoment v
  | _, v => bindPlain v

/-! ## What the database keeps -/

/-- What the database keeps of what it is handed. -/
def keepIn (type : ColumnType) (v : Value) : Value :=
  match type, v with
  | .label _, .int n | .text, .int n => .text (Decimal.wholeText n)
  | .label _, .float x | .text, .float x => .text (realText x)
  | .label _, v | .text, v => v
  | _, .text s => (numberOf? s).getD v
  | _, .float x => settled x
  | _, v => v

/-- What is stored of a value in a column. -/
def cell (type : ColumnType) (v : Value) : Outcome Value := keepIn type <$> bindTo type v

end Scriptorium.Storage
