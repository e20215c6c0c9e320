import Scriptorium.Json.Reader
import Scriptorium.Value
import Scriptorium.Value.Shown
set_option autoImplicit false

/-!
# Findings

Checking data against a schema gives a list of findings.  A finding is a complaint and the place
it is about; a complaint has a wording, a code and, for some, details.
-/

namespace Scriptorium.Schema

/-- What is wrong with a piece of data. -/
inductive Complaint where
  | missing
  | nothing
  | notText
  | shorter (least : Nat)
  | longer (most : Nat)
  | notStarting (word : String)
  | notWhole
  | notReal
  | tooSmall (least : Int)
  | tooGreat (most : Int)
  | notTruth
  | notMember (permitted : List String)
  | notConstant (given : Value) (permitted : List String)
  | unhashable (kind : Kind)
  | notIdent
  | notMoment
  | notMomentKind
  | momentOfNaN
  | notList
  | notRecord
  | namesNotTexts
  | notJson (error : Json.Misreading) (document : String)
  | notUpload (kind : Kind)
  /-- An infinite float has no whole part. -/
  | infinite
  /-- A whole number exceeds every float. -/
  | huge
  deriving Repr

namespace Complaint

/-- The list of permitted texts in a message. -/
def listed [Halves] (permitted : List String) : String :=
  ", ".intercalate (permitted.map Text.quoted)

/-- The wording of a complaint. -/
def message [Halves] : Complaint → String
  | missing => "field required"
  | nothing => "none is not an allowed value"
  | notText => "str type expected"
  | shorter least => s!"ensure this value has at least {least} characters"
  | longer most => s!"ensure this value has at most {most} characters"
  | notStarting word => s!"string does not match regex \"{word}\""
  | notWhole => "value is not a valid integer"
  | notReal => "value is not a valid float"
  | tooSmall least => s!"ensure this value is greater than or equal to {least}"
  | tooGreat most => s!"ensure this value is less than or equal to {most}"
  | notTruth => "value could not be parsed to a boolean"
  | notMember permitted =>
    "value is not a valid enumeration member; permitted: " ++ listed permitted
  | notConstant _ permitted => "unexpected value; permitted: " ++ listed permitted
  | unhashable kind => s!"unhashable type: '{kind.label}'"
  | notIdent => "value is not a valid uuid"
  | notMoment => "invalid datetime format"
  | notMomentKind => "invalid type; expected datetime, string, bytes, int or float"
  | momentOfNaN => "cannot convert float NaN to integer"
  | notList => "value is not a valid list"
  | notRecord => "value is not a valid dict"
  | namesNotTexts => "keywords must be strings"
  | notJson e document =>
    let cs := document.toList
    let line := Json.lineOf cs e.index
    let column := Json.columnOf cs e.index
    s!"{e.complaint.message}: line {line} column {column} (char {e.index})"
  | notUpload kind => s!"Expected UploadFile, received: <class '{kind.label}'>"
  | infinite => "cannot convert float infinity to integer"
  | huge => "int too large to convert to float"

/-- The code of a complaint. -/
def code : Complaint → String
  | missing => "value_error.missing"
  | nothing => "type_error.none.not_allowed"
  | notText => "type_error.str"
  | shorter _ => "value_error.any_str.min_length"
  | longer _ => "value_error.any_str.max_length"
  | notStarting _ => "value_error.str.regex"
  | notWhole => "type_error.integer"
  | notReal => "type_error.float"
  | tooSmall _ => "value_error.number.not_ge"
  | tooGreat _ => "value_error.number.not_le"
  | notTruth => "type_error.bool"
  | notMember _ => "type_error.enum"
  | notConstant _ _ => "value_error.const"
  | unhashable _ => "type_error"
  | notIdent => "type_error.uuid"
  | notMoment => "value_error.datetime"
  | notMomentKind => "type_error"
  | momentOfNaN => "value_error"
  | notList => "type_error.list"
  | notRecord => "type_error.dict"
  | namesNotTexts => "type_error"
  | notJson _ _ => "value_error.jsondecode"
  | notUpload _ => "value_error"
  | infinite | huge => "overflow_error"

/-- The details of a complaint. -/
def details : Complaint → Fields
  | shorter least => [("limit_value", .int least)]
  | longer most => [("limit_value", .int most)]
  | notStarting word => [("pattern", .text word)]
  | tooSmall least => [("limit_value", .int least)]
  | tooGreat most => [("limit_value", .int most)]
  | notMember permitted => [("enum_values", .list (permitted.map .text))]
  | notConstant given permitted =>
    [("given", given), ("permitted", .list (permitted.map .text))]
  | notJson e document =>
    let cs := document.toList
    [("msg", .text e.complaint.message), ("doc", .text document), ("pos", .int e.index),
      ("lineno", .int (Json.lineOf cs e.index)), ("colno", .int (Json.columnOf cs e.index))]
  | _ => []

/-- Whether a complaint breaks off checking: nothing else is then reported. -/
def breaksOff : Complaint → Bool
  | infinite | huge => true
  | _ => false

end Complaint

/-- A complaint about the data at a place: names and indices from the outside in. -/
structure Finding where
  place : List Value
  complaint : Complaint
  deriving Repr

/-- A finding as a record. -/
def Finding.toValue [Halves] (f : Finding) : Value :=
  .record ([("loc", .list f.place), ("msg", .text f.complaint.message),
    ("type", .text f.complaint.code)] ++
    (if f.complaint.details.isEmpty then [] else [("ctx", .record f.complaint.details)]))

/-- The code of a complaint and its details on one line. -/
def Complaint.summary [Halves] (c : Complaint) : String :=
  c.details.foldl (fun text (name, value) => text ++ s!"; {name}={value.shown}") s!"type={c.code}"

/-- A finding on two lines. -/
def Finding.text [Halves] (f : Finding) : String :=
  let place := " -> ".intercalate (f.place.map Value.shown)
  s!"{place}\n  {f.complaint.message} ({f.complaint.summary})"

/-- What was found wrong with the data of a record, under the name of its form. -/
def report [Halves] (about : String) (findings : List Finding) : String :=
  let ending := if findings.length = 1 then "" else "s"
  s!"{findings.length} validation error{ending} for {about}\n" ++
    "\n".intercalate (findings.map Finding.text)

end Scriptorium.Schema
