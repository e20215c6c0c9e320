import Scriptorium.Grammar
import Scriptorium.Web.Answer
import Scriptorium.Web.Route
set_option autoImplicit false

/-!
# Routes to the documentation of code, and to the grammar
-/

namespace Scriptorium.Api.Documentation

open Schema Web

variable [Halves]

/-- A report on a file. -/
def upload : Endpoint where
  body := .form [.file "file"]
  run := Endpoint.reading fun call _ => do
    let file := call.file "file"
    return .final 200 (← Scriptorium.Documentation.upload call.around.documentation
      (.text (file.filename.getD "")) file.bytes)

/-- A report on a piece of code. -/
def analyse : Endpoint where
  query := [.required "code" Forms.anyText,
    .defaulted "language" Forms.anyText (.text "python")]
  run := Endpoint.reading fun call _ => do
    return .value (← Scriptorium.Documentation.analyse call.around.documentation
      (call.arg "code") (call.arg "language"))

/-- What is wrong with the grammar of a text. -/
def grammar : Endpoint where
  body := .embedded "text" Forms.anyText
  run := Endpoint.reading fun call _ => do
    return .value (← Grammar.report (call.arg "text") call.around.marks)

/-- The routes to documentation. -/
def routes : List Route :=
  [.lead "POST" "/document/upload" "upload_document" upload,
    .lead "POST" "/document/analyze" "analyze_code" analyse,
    .lead "POST" "/documentation/check-grammar" "check_grammar" grammar]

end Scriptorium.Api.Documentation
