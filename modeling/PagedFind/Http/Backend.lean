import PagedFind.Find.Backend
import PagedFind.Text.Basic

namespace PagedFind.Http

/-- A status has three digits and does not begin with zero. -/
def isStatus (code : Nat) : Bool := 100 ≤ code && code ≤ 999

def isSuccess (code : Nat) : Bool := 200 ≤ code && code ≤ 299

def reasonPhrases : List (Nat × String) := [
  (100, "Continue"), (101, "Switching Protocols"), (102, "Processing"), (103, "Early Hints"),
  (200, "OK"), (201, "Created"), (202, "Accepted"), (203, "Non Authoritative Information"),
  (204, "No Content"), (205, "Reset Content"), (206, "Partial Content"), (207, "Multi-Status"),
  (208, "Already Reported"), (226, "IM Used"),
  (300, "Multiple Choices"), (301, "Moved Permanently"), (302, "Found"), (303, "See Other"),
  (304, "Not Modified"), (305, "Use Proxy"), (307, "Temporary Redirect"),
  (308, "Permanent Redirect"),
  (400, "Bad Request"), (401, "Unauthorized"), (402, "Payment Required"), (403, "Forbidden"),
  (404, "Not Found"), (405, "Method Not Allowed"), (406, "Not Acceptable"),
  (407, "Proxy Authentication Required"), (408, "Request Timeout"), (409, "Conflict"),
  (410, "Gone"), (411, "Length Required"), (412, "Precondition Failed"),
  (413, "Payload Too Large"), (414, "URI Too Long"), (415, "Unsupported Media Type"),
  (416, "Range Not Satisfiable"), (417, "Expectation Failed"), (418, "I'm a teapot"),
  (421, "Misdirected Request"), (422, "Unprocessable Entity"), (423, "Locked"),
  (424, "Failed Dependency"), (425, "Too Early"), (426, "Upgrade Required"),
  (428, "Precondition Required"), (429, "Too Many Requests"),
  (431, "Request Header Fields Too Large"), (451, "Unavailable For Legal Reasons"),
  (500, "Internal Server Error"), (501, "Not Implemented"), (502, "Bad Gateway"),
  (503, "Service Unavailable"), (504, "Gateway Timeout"), (505, "HTTP Version Not Supported"),
  (506, "Variant Also Negotiates"), (507, "Insufficient Storage"), (508, "Loop Detected"),
  (510, "Not Extended"), (511, "Network Authentication Required")]

def reasonPhrase? (code : Nat) : Option String := reasonPhrases.lookup code

structure Answer where
  status : Nat
  body : String
deriving DecidableEq, Repr

/-- The failure that an answer reports. A body with the names of the error and its reason gives them; else
the phrase of the status and the body itself stand in. -/
def backendError (answer : Answer) : FindError :=
  let body := (Json.read answer.body).toOption
  let field (key : String) : Option String := (body.bind (Json.get? key)).bind Json.string?
  .backend answer.status
    ((field "error").getD ((reasonPhrase? answer.status).getD "unknown_error"))
    ((field "reason").getD (Text.trim answer.body))

def outcome {α : Type} (ofJson : Json → Except ShapeError α) (answer : Answer) : Except FindError α :=
  if isSuccess answer.status then
    match Json.read answer.body with
    | .error e => .error (.json (.unreadable e))
    | .ok v => (ofJson v).mapError fun e => .json (.misshapen e)
  else .error (backendError answer)

def databasePath (database endpoint : String) : String :=
  "/" ++ String.ofList (Text.trimClass (· == '/') database.toList) ++ "/" ++ endpoint

/-- Sends a body to a URL and brings the answer, or the reason why there is none. -/
abbrev Exchange (m : Type → Type) := String → String → m (Except String Answer)

section

variable {m : Type → Type} [Monad m]

def post {α : Type} (exchange : Exchange m) (ofJson : Json → Except ShapeError α) (url : String)
    (body : Json) : m (Reply α) := do
  let answer ← exchange url body.text
  return {
    outcome := match answer with
      | .error detail => .error (.transport ("HTTP request failed: " ++ detail))
      | .ok answer => outcome ofJson answer
    events := [⟨.debug, "POST " ++ url⟩] }

def backend (exchange : Exchange m) (baseUrl : String) (limits : Limits) : Backend m where
  limits := limits
  execute database request :=
    post exchange Page.ofJson (baseUrl ++ databasePath database "_find") request.document
  createIndex database spec :=
    post exchange IndexOutcome.ofJson (baseUrl ++ databasePath database "_index") spec.document

end

end PagedFind.Http
