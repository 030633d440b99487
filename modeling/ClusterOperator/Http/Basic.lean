import ClusterOperator.Json.Basic

/-!
# HTTP

Requests, replies, and what the codes of replies mean.
-/

namespace ClusterOperator

/-! ## HTTP requests and replies

Requests have a JSON document as their body, or none. A reply has a code and a text.
-/

/-- What a request asks for. -/
inductive HttpMethod where
  | get
  | post
  | put
  | patch
  | delete
  deriving DecidableEq

/-- The written form of a method. -/
def HttpMethod.text : HttpMethod → String
  | get => "GET"
  | post => "POST"
  | put => "PUT"
  | patch => "PATCH"
  | delete => "DELETE"

/-- A request. -/
structure HttpRequest where
  method : HttpMethod
  /-- Where the request goes: a URL, or a path on a known server. -/
  target : String
  /-- The type of the body. -/
  contentType : Option String
  body : Option Json

/-- A reply. -/
structure HttpReply where
  code : Nat
  body : String
  deriving DecidableEq

/-- The type of a body that is a JSON document. -/
def jsonContent : String := "application/json"

/-- The type of a body that is a merge patch. -/
def mergePatchContent : String := "application/merge-patch+json"

/-- Whether a reply reports success. -/
def HttpReply.isSuccess (reply : HttpReply) : Bool := 200 ≤ reply.code && reply.code < 300

/-- Whether a reply reports a failure, of the one who asked or of the server. -/
def HttpReply.isFailure (reply : HttpReply) : Bool := 400 ≤ reply.code && reply.code < 600

/-- Somebody who carries requests to where they go; there may be no reply. -/
abbrev Carrier (σ : Type) := HttpRequest → σ → Option HttpReply × σ

end ClusterOperator

namespace ClusterOperator.HttpStatus

/-! ## Codes of replies

Every registered code of an HTTP reply has a phrase that says what it means.
-/

/-- The registered codes with their phrases. -/
def phrases : List (Nat × String) :=
  [(100, "Continue"), (101, "Switching Protocols"), (102, "Processing"), (200, "OK"),
    (201, "Created"), (202, "Accepted"), (203, "Non Authoritative Information"),
    (204, "No Content"), (205, "Reset Content"), (206, "Partial Content"), (207, "Multi-Status"),
    (208, "Already Reported"), (226, "IM Used"), (300, "Multiple Choices"),
    (301, "Moved Permanently"), (302, "Found"), (303, "See Other"), (304, "Not Modified"),
    (305, "Use Proxy"), (307, "Temporary Redirect"), (308, "Permanent Redirect"),
    (400, "Bad Request"), (401, "Unauthorized"), (402, "Payment Required"), (403, "Forbidden"),
    (404, "Not Found"), (405, "Method Not Allowed"), (406, "Not Acceptable"),
    (407, "Proxy Authentication Required"), (408, "Request Timeout"), (409, "Conflict"),
    (410, "Gone"), (411, "Length Required"), (412, "Precondition Failed"),
    (413, "Payload Too Large"), (414, "URI Too Long"), (415, "Unsupported Media Type"),
    (416, "Range Not Satisfiable"), (417, "Expectation Failed"), (418, "I'm a teapot"),
    (421, "Misdirected Request"), (422, "Unprocessable Entity"), (423, "Locked"),
    (424, "Failed Dependency"), (425, "Too Early"), (426, "Upgrade Required"),
    (428, "Precondition Required"), (429, "Too Many Requests"),
    (431, "Request Header Fields Too Large"), (451, "Unavailable For Legal Reasons"),
    (500, "Internal Server Error"), (501, "Not Implemented"), (502, "Bad Gateway"),
    (503, "Service Unavailable"), (504, "Gateway Timeout"), (505, "HTTP Version Not Supported"),
    (506, "Variant Also Negotiates"), (507, "Insufficient Storage"), (508, "Loop Detected"),
    (510, "Not Extended"), (511, "Network Authentication Required")]

def phrase (code : Nat) : String := (phrases.lookup code).getD "<unknown status code>"

/-- A code with its phrase. -/
def text (code : Nat) : String := toString code ++ " " ++ phrase code

end ClusterOperator.HttpStatus
