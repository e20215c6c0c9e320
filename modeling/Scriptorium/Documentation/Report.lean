import Scriptorium.Assistant
import Scriptorium.Diff.Unified
import Scriptorium.Digest.Md5
import Scriptorium.Documentation.Fallback
import Scriptorium.Documentation.Quality
import Scriptorium.History.Request
import Scriptorium.Source.Format
import Scriptorium.Source.Structure
import Scriptorium.Stamp
set_option autoImplicit false

/-!
# Reports on files

A report on a file brings together its documentation, its structure, the quality of the
documentation, the difference from an earlier version and facts about the file.
-/

namespace Scriptorium.Documentation

open Source (Format)

variable [Halves]

/-- Facts about a file. -/
structure Metadata where
  format : String
  bytes : Nat
  lines : Nat
  documented : Bool
  analysed : Stamp
  deriving DecidableEq, Repr

/-- Whether a file with this suffix holds documentation (`_has_documentation`). -/
def hasDocumentation (content suffix : Value) : Outcome Bool :=
  match suffix with
  | .text ".py" => do
    if ← content.holdsName "\"\"\"" then return true
    content.holdsName "'''"
  | .text ".js" | .text ".ts" => content.holdsName "/**"
  | .text ".md" => .ok true
  | _ => .ok false

/-- The facts about a file (`_extract_metadata`). -/
def metadata (content suffix : Value) (now : Stamp) : Outcome Metadata := do
  let format ← Format.find? suffix
  let bytes ← content.bytes
  let text ← content.textFor "splitlines"
  return {
    format := (format.map Format.name).getD "unknown"
    bytes := bytes.length
    lines := (Text.lines text.toList).length
    documented := ← hasDocumentation content suffix
    analysed := now }

/-- Facts about a file as a record. -/
def Metadata.toValue (m : Metadata) : Value :=
  .record [("file_type", .text m.format), ("size_bytes", .int m.bytes),
    ("line_count", .int m.lines), ("has_documentation", .bool m.documented),
    ("last_analyzed", .text m.analysed.text), ("language", .text m.format)]

/-- The name of a version of a text (`_generate_version_hash`). -/
def versionHash (content : Value) : Outcome String := Digest.Md5.ofBytes <$> content.bytes

/-- The difference between two versions of a text (`_generate_diff`). -/
def difference (old new : Value) : Outcome String := do
  let before ← old.textFor "splitlines"
  let after ← new.textFor "splitlines"
  return Diff.unified ⟨"old", ""⟩ ⟨"new", ""⟩ before after

/-- How the outside world answers while a report is made. -/
structure Surroundings where
  standards : Standards := {}
  /-- Whether the assistant is connected. -/
  connected : Bool := false
  apiKey : String := ""
  reply : Reply := .unreachable
  now : Stamp

/-- A service (`DocumentService`): its archive, what it assesses documentation against, and whether
it is connected to the assistant.  A new one has neither standards nor a connection. -/
structure Service where
  books : History.Books := {}
  standards : Standards := {}
  connected : Bool := false

/-- What a report of the service meets. -/
def Service.around (service : Service) (key : String) (reply : Reply) (now : Stamp) :
    Surroundings where
  standards := service.standards
  connected := service.connected
  apiKey := key
  reply := reply
  now := now

/-- Whether the key opens the assistant. -/
def isKey (key : String) : Bool := !key.isEmpty && key != "your_openai_api_key_here"

/-- The documentation of a file (`_generate_documentation`).  A failure on the way is itself the
documentation. -/
def documentationOf (around : Surroundings) (suffix structure' : Value) : Value :=
  let written : Outcome Value :=
    if !isKey around.apiKey then .text <$> fallback suffix structure'
    else if !around.connected then .error (unset "client")
    else match around.reply with
      | .failure text => .error (.reported text)
      | .drafts choices _ => .ok (match choices.head? with
        | some draft => .ofText? draft
        | none => .text "")
  match written with
  | .ok documentation => documentation
  | .error cause => .text ("Error generating documentation: " ++ cause.message)

/-- The difference from an earlier version of the documentation, if there is one. -/
def differenceFrom (previous documentation : Value) : Outcome Value :=
  if previous.truthy then .text <$> difference previous documentation else .ok .null

/-- The report on the file at `path`, which reports show as `shownPath` (`process_document`). -/
def reportOn (around : Surroundings) (path shownPath : String) (file : Option (List UInt8))
    (previous : Value) : Outcome Value := do
  let suffix := Source.normalSuffix path
  if (Format.ofSuffix? suffix).isNone then
    throw (.reported ("Unsupported file format: " ++ suffix))
  let content := Value.text (← Source.readFile path file)
  let suffix := Value.text suffix
  let structure' := (← Source.structureOf content suffix).toValue
  let documentation := documentationOf around suffix structure'
  let quality ← assess around.standards documentation suffix structure'
  let diff ← differenceFrom previous documentation
  let facts ← metadata content suffix around.now
  let version ← versionHash content
  let score ← overall (.record quality.fields)
  let letter ← grade score
  return .record [("file_path", .text shownPath), ("documentation", documentation),
    ("metadata", facts.toValue), ("code_structure", structure'),
    ("quality_metrics", .record (quality.fields ++
      [("overall_score", score), ("grade", .text letter)])),
    ("diff", diff), ("version_hash", .text version), ("timestamp", .text around.now.text)]

/-- Every cause of failure is reported in one form. -/
def reporting (result : Outcome Value) : Outcome Value :=
  result.mapError fun cause => .reported ("Error processing document: " ++ cause.message)

/-- The report on a file that reports show as its path. -/
def report (around : Surroundings) (path : Value) (file : Option (List UInt8))
    (previous : Value) : Outcome Value :=
  reporting (do
    let path ← path.filePath
    reportOn around path path file previous)

/-- The answer to a request for a report on a file that is known by its suffix alone. -/
def answerOn (around : Surroundings) (stem suffix : String) (bytes : List UInt8) :
    Outcome Value := do
  let value ← reporting (reportOn around (stem ++ suffix) suffix (some bytes) .null)
  return .record [("status", .text "success"), ("data", value)]

/-- Every cause of failure refuses a request. -/
def refusing (result : Outcome Value) : Outcome Value :=
  result.mapError fun cause => .refused 500 (.text cause.message)

/-- The report on an uploaded file (`upload_document`). -/
def upload (around : Surroundings) (filename : Value) (bytes : List UInt8) : Outcome Value :=
  refusing (do
    let suffix := Source.normalSuffix (← filename.filePath)
    if (Format.ofSuffix? suffix).isNone then throw (.refused 400 .null)
    answerOn around "upload" suffix bytes)

/-- The suffix of a snippet in a language. -/
def snippetSuffix (language : String) : String :=
  match Text.lower language with
  | "python" => ".py"
  | "javascript" => ".js"
  | "typescript" => ".ts"
  | "html" => ".html"
  | "css" => ".css"
  | _ => ".txt"

/-- The report on a snippet of code (`analyze_code`). -/
def analyse (around : Surroundings) (code language : Value) : Outcome Value :=
  refusing (do
    let suffix := snippetSuffix (← language.textFor "lower")
    answerOn around "snippet" suffix (← code.bytes))

end Scriptorium.Documentation
