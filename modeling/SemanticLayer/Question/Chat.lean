import SemanticLayer.Question.Hint
import SemanticLayer.Question.Reply
import SemanticLayer.Text.Address

/-
# Chat servers

A question is put to a language model behind an HTTP server.  The request is
`POST base/chat/completions` with a JSON body of two messages: the task, and
the question with the catalog's listing.  The answer's first choice holds the
reply.
-/

namespace SemanticLayer.Chat

/-- A server with the model to ask there, and the key to show if one is needed. -/
structure Server where
  base : String
  model : String
  key : Option String
deriving DecidableEq

/-- The address that requests go to. -/
def Server.endpoint (s : Server) : String :=
  String.ofList (s.base.toList.reverse.dropWhile (· == '/')).reverse ++ "/chat/completions"

/-- The task of the model. -/
def task : String :=
  "You turn questions about business metrics into JSON query parameters. Reply with JSON only."

/-- The question as the model gets it.  The model is to copy the date phrase, not to compute dates. -/
def prompt (h : Hint) (question : String) : String :=
  "Use only the metrics and dimensions defined below.\n" ++ h.render ++ "\nQuestion: " ++ question ++
    "\n\nReturn a JSON object:\n\x7b\n" ++
    "    \"metric_name\": \"one metric name from the list\",\n" ++
    "    \"dimensions\": [\"dimension names to group by\"],\n" ++
    "    \"time_keyword\": \"the time phrase exactly as written, e.g. 最近7天, last month; " ++
    "do not compute dates\",\n" ++
    "    \"filters\": \x7b\"dimension name\": [\"values\"]\x7d\n" ++
    "\x7d\nUse null for anything the question does not mention."

/-- A message to the model. -/
def message (role content : String) : Json :=
  .object [("role", .string role), ("content", .string content)]

/-- The body of a request. -/
def body (s : Server) (h : Hint) (question : String) : Json :=
  .object [("model", .string s.model),
    ("messages", .list [message "system" task, message "user" (prompt h question)]),
    ("temperature", .float 0.1)]

/-- What comes of a request. -/
inductive Outcome where
  /-- No connection could be made. -/
  | unreachable (cause : String)
  /-- The server answered with a status and a text. -/
  | answered (status : Nat) (body : String)
deriving DecidableEq

/-- Whether a key may stand in the header of a request. -/
def keyFits (key : String) : Bool :=
  key.toList.all fun c => c == '\t' || (32 ≤ c.toNat && c.toNat != 127)

/-- The standard phrases of statuses. -/
def statusPhrases : List (Nat × String) :=
  [(100, "Continue"), (101, "Switching Protocols"), (102, "Processing"), (200, "OK"),
   (201, "Created"), (202, "Accepted"), (203, "Non Authoritative Information"),
   (204, "No Content"), (205, "Reset Content"), (206, "Partial Content"), (207, "Multi-Status"),
   (208, "Already Reported"), (226, "IM Used"), (300, "Multiple Choices"),
   (301, "Moved Permanently"), (302, "Found"), (303, "See Other"), (304, "Not Modified"),
   (305, "Use Proxy"), (307, "Temporary Redirect"), (308, "Permanent Redirect"),
   (400, "Bad Request"), (401, "Unauthorized"), (402, "Payment Required"), (403, "Forbidden"),
   (404, "Not Found"), (405, "Method Not Allowed"), (406, "Not Acceptable"),
   (407, "Proxy Authentication Required"), (408, "Request Timeout"), (409, "Conflict"),
   (410, "Gone"), (411, "Length Required"), (412, "Precondition Failed"),
   (413, "Payload Too Large"), (414, "URI Too Long"), (415, "Unsupported Media Type"),
   (416, "Range Not Satisfiable"), (417, "Expectation Failed"), (418, "I'm a teapot"),
   (421, "Misdirected Request"), (422, "Unprocessable Entity"), (423, "Locked"),
   (424, "Failed Dependency"), (426, "Upgrade Required"), (428, "Precondition Required"),
   (429, "Too Many Requests"), (431, "Request Header Fields Too Large"),
   (451, "Unavailable For Legal Reasons"), (500, "Internal Server Error"),
   (501, "Not Implemented"), (502, "Bad Gateway"), (503, "Service Unavailable"),
   (504, "Gateway Timeout"), (505, "HTTP Version Not Supported"),
   (506, "Variant Also Negotiates"), (507, "Insufficient Storage"), (508, "Loop Detected"),
   (510, "Not Extended"), (511, "Network Authentication Required")]

/-- A status with its phrase. -/
def statusText (status : Nat) : String :=
  toString status ++ " " ++ (statusPhrases.lookup status).getD "<unknown status code>"

/-- Whether answers of a status have no text, whatever the server sends. -/
def isBodiless (status : Nat) : Bool := status = 204 || status = 304

/-- The reply in the body of an answer: the content of the first choice's message. -/
def content? (payload : Json) : Option String := do
  (← (← (← (← payload.get? "choices").at? 0).get? "message").get? "content").string?

/-- The reply in an answer of the server. -/
def replyOf (body : String) : Except ProviderError String :=
  match Json.read body with
  | .error p => .error (.malformed ("error decoding response body: " ++ p.message))
  | .ok payload =>
    match content? payload with
    | some reply => .ok reply
    | none => .error (.malformed "no message content in reply")

/-- The candidate that comes of a request. -/
def read (s : Server) : Outcome → Except ProviderError Candidate
  | .unreachable cause =>
    .error (.unavailable ("error sending request for url (" ++
      (Text.Address.ofString s.endpoint).canonical ++ "): error trying to connect: " ++ cause))
  | .answered status body =>
    if 200 ≤ status ∧ status < 300 then do
      Reply.read (← replyOf (if isBodiless status then "" else body))
    else .error (.unavailable (s.endpoint ++ " answered with HTTP " ++ statusText status))

/-- A request that cannot be made because of its key. -/
def badKey : ProviderError := .unavailable "builder error: failed to parse header value"

/-- The candidate of a server, whose requests come out in some way. -/
def ask (s : Server) (outcome : Outcome) : Except ProviderError Candidate :=
  if s.key.any fun k => !keyFits k then .error badKey else read s outcome

end SemanticLayer.Chat
