import TitleDock.Event.Log
import TitleDock.Remote.Client
import TitleDock.Remote.Endpoint

/-! The web interface of a device. Every call is one request, and what becomes of the request
decides its answer: a status that is not a success is a fault, and so is a body that does not arrive
whole or does not read as what the call asks for. -/

namespace TitleDock

structure HttpRequest where
  method : String
  endpoint : Endpoint
  body : Option Bytes
deriving DecidableEq, Repr

inductive BodyEnd where
  | complete
  /-- The connection ends before the declared length. -/
  | cut
  /-- The rest never comes. -/
  | stalled
deriving DecidableEq, Repr

structure HttpReply where
  status : Nat
  /-- The length that is declared for the body. -/
  length : Option Nat
  body : Bytes
  ending : BodyEnd
deriving DecidableEq, Repr

inductive Exchange where
  | replied (r : HttpReply)
  /-- Nobody listens at the address. -/
  | refused
  /-- The connection ends, or carries something else than a reply. -/
  | broken
  /-- Nothing comes in time. -/
  | silent
deriving DecidableEq, Repr

namespace Http

def reasons : List (Nat × String) := [
  (100, "Continue"), (101, "Switching Protocols"), (102, "Processing"), (103, "Early Hints"),
  (200, "OK"), (201, "Created"), (202, "Accepted"), (203, "Non Authoritative Information"),
  (204, "No Content"), (205, "Reset Content"), (206, "Partial Content"), (207, "Multi-Status"),
  (208, "Already Reported"), (226, "IM Used"), (300, "Multiple Choices"),
  (301, "Moved Permanently"), (302, "Found"), (303, "See Other"), (304, "Not Modified"),
  (305, "Use Proxy"), (307, "Temporary Redirect"), (308, "Permanent Redirect"),
  (400, "Bad Request"), (401, "Unauthorized"), (402, "Payment Required"), (403, "Forbidden"),
  (404, "Not Found"), (405, "Method Not Allowed"), (406, "Not Acceptable"),
  (407, "Proxy Authentication Required"), (408, "Request Timeout"), (409, "Conflict"),
  (410, "Gone"), (411, "Length Required"), (412, "Precondition Failed"),
  (413, "Payload Too Large"), (414, "URI Too Long"), (415, "Unsupported Media Type"),
  (416, "Range Not Satisfiable"), (417, "Expectation Failed"), (418, "I'm a teapot"),
  (421, "Misdirected Request"), (422, "Unprocessable Entity"), (423, "Locked"),
  (424, "Failed Dependency"), (425, "Too Early"), (426, "Upgrade Required"),
  (428, "Precondition Required"), (429, "Too Many Requests"),
  (431, "Request Header Fields Too Large"), (451, "Unavailable For Legal Reasons"),
  (500, "Internal Server Error"), (501, "Not Implemented"), (502, "Bad Gateway"),
  (503, "Service Unavailable"), (504, "Gateway Timeout"), (505, "HTTP Version Not Supported"),
  (506, "Variant Also Negotiates"), (507, "Insufficient Storage"), (508, "Loop Detected"),
  (510, "Not Extended"), (511, "Network Authentication Required")]

def statusText (status : Nat) : String :=
  match reasons.lookup status with
  | some reason => toString status ++ " " ++ reason
  | none => toString status

def isSuccess (status : Nat) : Bool := 200 ≤ status && status < 300

def transport : String := "transport error"

def success (e : Endpoint) (rejected : String → Fault) : Exchange → Except Fault HttpReply
  | .replied r =>
    if isSuccess r.status then .ok r
    else .error (rejected (e.path ++ " returned " ++ statusText r.status))
  | .refused | .broken | .silent => .error (.unreachable transport)

def decode {α : Type} (read : Json → Option α) (r : HttpReply) : Except Fault α :=
  match r.ending with
  | .cut => .error (.protocol transport)
  | .stalled => .error (.unreachable transport)
  | .complete =>
    match (Json.parse? r.body).bind read with
    | some v => .ok v
    | none => .error (.protocol "invalid response body")

def operationId? : Json → Option (Option String)
  | .array [] => none
  | v => do
    match ← v.fields? [["operationId"]] with
    | [id] => Json.orElse none Session.optionalText? id
    | _ => none

def acceptance (r : HttpReply) : Except Fault String := do
  match ← decode operationId? r with
  | some id =>
    if id.isEmpty then .error (.protocol "extract response is missing operationId") else .ok id
  | none => .error (.protocol "extract response is missing operationId")

def stream (r : HttpReply) : PayloadStream :=
  { bytes := r.body, chunk := none, delay := 0
    ending := match r.ending with
      | .complete => .finished
      | .cut => .broken (.custom .other transport)
      | .stalled => .stalled }

/-- A download that does not start in time is a fault of its own. -/
def download (e : Endpoint) (x : Exchange) : Except Fault Download :=
  match x with
  | .silent => .error (.unreachable ("no response from " ++ e.url ++ " within timeout"))
  | x => do
    let r ← success e .protocol x
    .ok { contentLength := r.length, stream := stream r }

end Http

namespace Call

def parts : Call → List String
  | .info _ => ["info"]
  | .titles _ => ["titles"]
  | .extract .. => ["extract"]
  | .status _ operationId => ["status", operationId]
  | .download _ operationId => ["download", operationId]

def method : Call → String
  | .extract .. => "POST"
  | _ => "GET"

def body? : Call → Option Bytes
  | .extract _ request => some request.toJson.compact
  | _ => none

def request (c : Call) : Except Fault HttpRequest := do
  let endpoint ← Endpoint.below c.device.address c.parts
  .ok { method := c.method, endpoint, body := c.body? }

def record (c : Call) (e : Endpoint) : LogRecord :=
  { source := .client, level := .debug
    message := match c with
      | .download .. => "GET (stream)"
      | c => c.method
    fields := ("url", .text e.url) :: match c with
      | .extract _ request => [("title_id", .text request.titleId)]
      | _ => [] }

def answer (c : Call) (e : Endpoint) (x : Exchange) : Answer :=
  match c with
  | .info _ => .info ((Http.success e .protocol x).bind (Http.decode DeviceInfo.ofJson?))
  | .titles _ => .titles ((Http.success e .protocol x).bind (Http.decode Title.listOfJson?))
  | .extract .. => .accepted ((Http.success e .requestRejected x).bind Http.acceptance)
  | .status .. => .status ((Http.success e .protocol x).bind (Http.decode Session.ofJson?))
  | .download .. => .download (Http.download e x)

end Call

end TitleDock
