import Scriptorium.Ident
import Scriptorium.Pattern.Flaw
import Scriptorium.Schema.Finding
import Scriptorium.Storage.Flaw
import Scriptorium.Text.Utf8
import Scriptorium.Value
import Scriptorium.Value.Shown
set_option autoImplicit false

/-!
# Faults

Why an operation failed.  A fault is its cause; `Fault.message` is the one place that words
it, and `Fault.family` sorts causes into the families that callers tell apart.  Requests about
templates have refusals of their own.
-/

namespace Scriptorium.Template

/-- Why a request about templates is refused. -/
inductive Refusal where
  /-- A template with this identifier is there already. -/
  | taken (id : Value)
  /-- There is no template to copy. -/
  | noSource (id : Value)
  /-- There is no template to render. -/
  | missing (id : Value)
  /-- A default template is not deleted. -/
  | isDefault
  /-- The value is no type of templates. -/
  | noType (v : Value)
  deriving Repr

/-- The wording of a refusal. -/
def Refusal.message [Halves] : Refusal → String
  | taken id => s!"Template with ID {id.shown} already exists"
  | noSource id => s!"Source template not found: {id.shown}"
  | missing id => s!"Template not found: {id.shown}"
  | isDefault => "Cannot delete default templates"
  | noType v => s!"{v.literal} is not a valid TemplateType"

end Scriptorium.Template

namespace Scriptorium

/-- The families of causes that callers tell apart. -/
inductive Family where
  | absentKey
  | wrongKind
  | absentMember
  | badValue
  | badIndex
  | unboundName
  | general
  | closed
  | refusal
  | rejection
  | overflow
  | undecodable
  | unencodable
  | tooDeep
  | storage
  | database
  | oversized
  | absentComponent
  deriving DecidableEq, Repr

/-- A cause of failure. -/
inductive Fault where
  /-- A record has no field of this name. -/
  | missingKey (key : Value)
  /-- A value of this kind has no such member. -/
  | noMember (kind : String) (member : String)
  | noLength (kind : Kind)
  | notIterable (kind : Kind)
  /-- Nothing can be in a value of this kind. -/
  | notContainer (kind : Kind)
  | noSlice
  | notSubscriptable (kind : Kind)
  | cannotJoin
  | joinItem (index : Nat) (kind : Kind)
  | textIndexedBy (kind : Kind)
  | listIndexedBy (kind : Kind)
  | listRange
  | textRange
  | notOrdered (symbol left right : String)
  | notCombined (symbol : String) (left right : Kind)
  | notRepeated (kind : Kind)
  | notAwaitable
  | divisionByZero
  | notConcatenated (left right : Kind)
  | unhashable (kind : Kind)
  | unbound (name : String)
  /-- Anything else, in the words of whoever reported it. -/
  | reported (text : String)
  | socketClosed
  /-- A request is refused with a status and a detail. -/
  | refused (status : Nat) (detail : Value)
  /-- The data of a record does not have its form. -/
  | rejected (about : String) (findings : List Schema.Finding)
  /-- Bytes are no text. -/
  | notUtf8 (error : Text.Utf8.DecodeError)
  /-- A text has no bytes. -/
  | notEncodable (error : Text.Utf8.EncodeError)
  /-- Values are nested too deeply. -/
  | tooDeep (nest : Json.Nest)
  /-- A text is no identifier. -/
  | ident (flaw : Ident.Flaw)
  /-- A request about templates is refused. -/
  | template (refusal : Template.Refusal)
  /-- A pattern is flawed. -/
  | pattern (flaw : Pattern.Flaw)
  /-- A number is out of range. -/
  | outOfRange (text : String)
  /-- A value of this kind stands for no whole number. -/
  | notWhole (kind : Kind)
  /-- A value of this kind counts no minutes. -/
  | notMinutes (kind : Kind)
  /-- A member is asked of nothing, which is shown as `shown`. -/
  | memberOfNothing (shown member : String)
  /-- A member that should be a function is none. -/
  | notFunction (path : String)
  /-- A record has no text of its own. -/
  | notPrimitive
  /-- What is called `name` cannot be walked through. -/
  | notIterated (name : String)
  /-- A member that may not be looked at. -/
  | restricted
  /-- Something that should be a path is what `shown` says. -/
  | notPath (shown : String)
  /-- A value of this kind is no path of a file. -/
  | notFilePath (kind : Kind)
  /-- A value of this kind cannot be searched by a pattern. -/
  | notScanned (kind : Kind)
  /-- Something cannot be stored. -/
  | storage (flaw : Storage.Flaw)
  /-- The database complains. -/
  | database (complaint : Storage.Complaint)
  /-- Work was broken off for a reason that the caller gives. -/
  | aborted (text : String)
  /-- A table has no such column. -/
  | noColumn (table column : String)
  /-- Something that should be a secret text is a value that is shown as `shown`. -/
  | notSecret (what shown : String)
  | secretTooLong
  /-- A file that is kept in memory has no path. -/
  | noPath
  /-- A value of the right kind is not one that is accepted. -/
  | unaccepted (text : String)
  /-- There is no component of this name. -/
  | noComponent (name : String)
  /-- A component is asked for inside one that holds none. -/
  | notInside (name holder : String)
  /-- The name of a component starts nowhere. -/
  | rootless (name : String)
  deriving Repr

namespace Fault

/-- The family of a cause. -/
def family : Fault → Family
  | missingKey _ => .absentKey
  | noMember _ _ => .absentMember
  | noLength _ | notIterable _ | notContainer _ | noSlice | notSubscriptable _ | cannotJoin
  | joinItem _ _ | textIndexedBy _ | listIndexedBy _ | notOrdered _ _ _ | notCombined _ _ _
  | notRepeated _ | notConcatenated _ _ | unhashable _ | notAwaitable | notWhole _ | notMinutes _
  | memberOfNothing _ _ | notFunction _ | notPrimitive | notIterated _ | restricted | notPath _
  | notFilePath _ | notScanned _ | rootless _ | notSecret _ _ | noPath => .wrongKind
  | storage _ => .storage
  | database _ => .database
  | noColumn _ _ => .absentMember
  | secretTooLong => .oversized
  | noComponent _ | notInside _ _ => .absentComponent
  | divisionByZero => .general
  | listRange | textRange => .badIndex
  | unbound _ => .unboundName
  | reported _ => .general
  | socketClosed | aborted _ => .closed
  | refused _ _ => .refusal
  | rejected _ _ => .rejection
  | notUtf8 _ => .undecodable
  | notEncodable _ => .unencodable
  | tooDeep _ => .tooDeep
  | ident _ | template _ | unaccepted _ => .badValue
  | pattern flaw => match flaw with
    | .position _ => .badIndex
    | .noLayout _ | .boundTwice _ | .noBindings _ => .wrongKind
    | .charRange | .charSize | .noFloat => .overflow
    | _ => .badValue
  | outOfRange _ => .overflow

/-- The wording of a cause. -/
def message [Halves] : Fault → String
  | missingKey key => key.literal
  | noMember kind member => s!"'{kind}' object has no attribute '{member}'"
  | noLength kind => s!"object of type '{kind.label}' has no len()"
  | notIterable kind => s!"'{kind.label}' object is not iterable"
  | notContainer kind => s!"argument of type '{kind.label}' is not iterable"
  | noSlice => "unhashable type: 'slice'"
  | notSubscriptable kind => s!"'{kind.label}' object is not subscriptable"
  | cannotJoin => "can only join an iterable"
  | joinItem index kind => s!"sequence item {index}: expected str instance, {kind.label} found"
  | textIndexedBy kind => s!"string indices must be integers, not '{kind.label}'"
  | listIndexedBy kind => s!"list indices must be integers or slices, not {kind.label}"
  | listRange => "list index out of range"
  | textRange => "string index out of range"
  | notOrdered symbol left right =>
    s!"'{symbol}' not supported between instances of '{left}' and '{right}'"
  | notCombined symbol left right =>
    s!"unsupported operand type(s) for {symbol}: '{left.label}' and '{right.label}'"
  | notRepeated kind => s!"can't multiply sequence by non-int of type '{kind.label}'"
  | notConcatenated left right =>
    s!"can only concatenate {left.label} (not \"{right.label}\") to {left.label}"
  | unhashable kind => s!"unhashable type: '{kind.label}'"
  | notAwaitable => "object ChatCompletion can't be used in 'await' expression"
  | divisionByZero => "division by zero"
  | unbound name => s!"name '{name}' is not defined"
  | reported text => text
  | socketClosed => "socket closed"
  | refused _ _ => ""
  | rejected about findings => Schema.report about findings
  | notUtf8 e => e.message
  | notEncodable e => e.message
  | tooDeep nest => nest.message
  | ident flaw => flaw.message
  | template refusal => refusal.message
  | pattern flaw => flaw.message
  | outOfRange text | unaccepted text | aborted text => text
  | notWhole kind =>
    s!"int() argument must be a string, a bytes-like object or a real number, not '{kind.label}'"
  | storage _ => ""
  | database complaint => complaint.message
  | noColumn table column => s!"type object '{table}' has no attribute '{column}'"
  | notSecret what shown => s!"{what} must be unicode or bytes, not {shown}"
  | secretTooLong => "password exceeds maximum allowed size"
  | noComponent name => "No module named " ++ Text.quoted name
  | notInside name holder =>
    "No module named " ++ Text.quoted name ++ "; " ++ Text.quoted holder ++ " is not a package"
  | rootless name => "the 'package' argument is required to perform a relative import for " ++
      Text.quoted name
  | noPath => "stat: path should be string, bytes, os.PathLike or integer, not NoneType"
  | memberOfNothing shown member =>
    s!"Cannot read properties of {shown} (reading '{member}')"
  | notFunction path => s!"{path} is not a function"
  | notPrimitive => "Cannot convert object to primitive value"
  | notIterated name => s!"{name} is not iterable"
  | restricted => "'caller', 'callee', and 'arguments' properties may not be accessed on strict " ++
      "mode functions or the arguments objects for calls to them"
  | notPath shown => s!"The \"path\" argument must be of type string. Received {shown}"
  | notFilePath kind => s!"expected str, bytes or os.PathLike object, not {kind.label}"
  | notScanned kind => s!"expected string or bytes-like object, got '{kind.label}'"
  | notMinutes kind => s!"unsupported type for timedelta minutes component: {kind.label}"

/-- The fault of data that does not have its form. -/
def ofFindings [Halves] (about : String) (findings : List Schema.Finding) : Fault :=
  match findings.find? (·.complaint.breaksOff) with
  | some f => outOfRange f.complaint.message
  | none => rejected about findings

end Fault

/-- A computation that may fail. -/
abbrev Outcome (α : Type) := Except Fault α

end Scriptorium
