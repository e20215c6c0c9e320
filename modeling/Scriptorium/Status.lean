import Scriptorium.Json.Writer
set_option autoImplicit false

/-!
# Status codes

The phrases of the status codes, and the answers in which a refusal, or a failure of any other
cause, is reported.
-/

namespace Scriptorium

/-- The codes that have a phrase. -/
def statusPhrases : List (Nat × String) :=
  [(100, "Continue"), (101, "Switching Protocols"), (102, "Processing"),
   (103, "Early Hints"), (200, "OK"), (201, "Created"), (202, "Accepted"),
   (203, "Non-Authoritative Information"), (204, "No Content"), (205, "Reset Content"),
   (206, "Partial Content"), (207, "Multi-Status"), (208, "Already Reported"),
   (226, "IM Used"), (300, "Multiple Choices"), (301, "Moved Permanently"), (302, "Found"),
   (303, "See Other"), (304, "Not Modified"), (305, "Use Proxy"),
   (307, "Temporary Redirect"), (308, "Permanent Redirect"), (400, "Bad Request"),
   (401, "Unauthorized"), (402, "Payment Required"), (403, "Forbidden"), (404, "Not Found"),
   (405, "Method Not Allowed"), (406, "Not Acceptable"),
   (407, "Proxy Authentication Required"), (408, "Request Timeout"), (409, "Conflict"),
   (410, "Gone"), (411, "Length Required"), (412, "Precondition Failed"),
   (413, "Request Entity Too Large"), (414, "Request-URI Too Long"),
   (415, "Unsupported Media Type"), (416, "Requested Range Not Satisfiable"),
   (417, "Expectation Failed"), (418, "I'm a Teapot"), (421, "Misdirected Request"),
   (422, "Unprocessable Entity"), (423, "Locked"), (424, "Failed Dependency"),
   (425, "Too Early"), (426, "Upgrade Required"), (428, "Precondition Required"),
   (429, "Too Many Requests"), (431, "Request Header Fields Too Large"),
   (451, "Unavailable For Legal Reasons"), (500, "Internal Server Error"),
   (501, "Not Implemented"), (502, "Bad Gateway"), (503, "Service Unavailable"),
   (504, "Gateway Timeout"), (505, "HTTP Version Not Supported"),
   (506, "Variant Also Negotiates"), (507, "Insufficient Storage"), (508, "Loop Detected"),
   (510, "Not Extended"), (511, "Network Authentication Required")]

/-- An answer with a status and a body. -/
structure Report where
  status : Value
  body : Value
  deriving Repr

namespace Report

/-- The answer that gives a detail and repeats the status. -/
def withDetail (status detail : Value) : Report :=
  ⟨status, .record [("detail", detail), ("status_code", status)]⟩

/-- The detail of a refusal; where none is given, the phrase of the status stands for it. -/
def detailOf [Halves] (status : Value) : Value → Outcome Value
  | .null => match statusPhrases.find? fun (code, _) => status.same (.int code) with
    | some (_, phrase) => .ok (.text phrase)
    | none => .error (.unaccepted (status.literal ++ " is not a valid HTTPStatus"))
  | detail => .ok detail

/-- The answer to a refusal (`http_exception_handler`). -/
def ofRefusal [Halves] (status detail : Value) : Outcome Report := do
  let report := withDetail status (← detailOf status detail)
  match Json.unsendable? report.body with
  | some f => throw f
  | none => return report

/-- The answer to a failure of any cause, which is not told (`generic_exception_handler`). -/
def ofFailure : Report := withDetail (.int 500) (.text "Internal server error")

end Report

end Scriptorium
