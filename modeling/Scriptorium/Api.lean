import Scriptorium.Api.Assistance
import Scriptorium.Api.Cabinet
import Scriptorium.Api.Documentation
import Scriptorium.Api.Projects
import Scriptorium.Api.Sheets
import Scriptorium.Api.Templates
import Scriptorium.Api.Users
import Scriptorium.Web.Serve
set_option autoImplicit false

/-!
# The applications

Three applications: the shelf with documents and templates, the desk with documentation and
sheets, and the office with users, projects and the assistant.
-/

namespace Scriptorium.Api

open Web

variable [Halves]

/-- Routes below a path. -/
def below (base : String) (routes : List Route) : List Route := routes.map (Route.below base)

/-- The pages that an application has about itself. -/
def pages (schema docs redoc : String) : List Route :=
  [.page schema "openapi", .page docs "swagger_ui_html",
    .page "/docs/oauth2-redirect" "swagger_ui_redirect", .page redoc "redoc_html"]

/-- An endpoint that always says the same. -/
def saying (fields : Fields) : Endpoint where
  run := Endpoint.reading fun _ _ => .ok (.value (.record fields))

/-- The report of an application's health. -/
def health : Endpoint where
  run := Endpoint.reading fun call world => .ok (.value (world.health.report call.around.now))

/-! ## The shelf -/

/-- Documents and templates. -/
def shelf : Application where
  routes := pages "/openapi.json" "/api/docs" "/api/redoc" ++
    below "/api/documents" Cabinet.routes ++ below "/api/templates" Templates.routes ++
    [.lead "GET" "/api/health" "health_check"
      (saying [("status", .text "healthy"), ("version", .text "0.1.0")])]

/-! ## The desk -/

/-- Documentation and sheets. -/
def deskRoutes : List Route :=
  below "/documentation" Documentation.routes ++ below "/collaboration" Sheets.routes

/-- Documentation, sheets and rooms. -/
def desk : Application where
  routes := pages "/openapi.json" "/api/docs" "/api/redoc" ++ below "/api/v1" deskRoutes ++
    below "/api/v1/documents" Documentation.routes ++
    [.lead "GET" "/api/health" "health_check" health,
      .lead "GET" "/api/health" "health_check" health,
      .socket "/ws/:document_id" "websocket_endpoint"]

/-! ## The office -/

/-- Users, projects, papers and the assistant. -/
def officeRoutes : List Route :=
  below "/auth" Users.entryRoutes ++ below "/users" Users.routes ++
    below "/projects" Projects.routes ++ below "/documents" Projects.paperRoutes ++
    below "/ai" Assistance.routes

/-- Users, projects, papers and the assistant, with a folder of files (`get_application`). -/
def office : Application where
  routes := pages "/api/v1/openapi.json" "/docs" "/redoc" ++ below "/api/v1" officeRoutes ++
    [.folder "/static" "static",
      .lead "GET" "/health" "health_check" (saying [("status", .text "ok")])]
  manner := .repeated

end Scriptorium.Api
