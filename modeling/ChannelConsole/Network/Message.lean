import ChannelConsole.Json.Reader
import ChannelConsole.Text.Encoding

/-!
# Messages between servers

What is asked of a server and what it answers, as far as this library looks at either.

## Main definitions

* `Network.Body`: what a message carries.
* `Network.Body.isEncodable`: whether a body has whole characters only.
* `Network.Body.read`: the value of the body of an answer.
* `Network.Request`: a method, a path, the header with which one logs in, and a body.
* `Network.Response`: a status and a body.
* `Network.statusComplaint`: what is said about a response with a status of failure.
-/

namespace ChannelConsole.Network

/-- What a message carries. -/
inductive Body where
  | json (v : Json)
  | text (s : Text)
  | empty

/-- Whether a body can be written as it is, which takes whole characters. -/
def Body.isEncodable : Body → Bool
  | .json v => v.isEncodable
  | _ => true

/-- How deeply the body of an answer may be nested. -/
def maxAnswerDepth : Nat := 900

/-- The value of the body of an answer, in whatever encoding it came, or what is wrong with it. -/
def Body.read (body : Body) : Except Json.ReadFault Json :=
  match body with
  | .json v => .ok v
  | .text s =>
    match Text.decode? (s.toList.flatMap Text.bytesOf) with
    | some decoded => Json.read (.careless maxAnswerDepth) decoded
    | none => .error { flaw := .noValue }
  | .empty => .error { flaw := .noValue }

/-- What is asked of a server. -/
structure Request where
  method : Text
  path : Text
  authorization? : Option Text := none
  body : Body := .empty

/-- What a server answers. -/
structure Response where
  status : Nat
  body : Body

/-! ### Statuses -/

/-- Whether a status stands for success. -/
def isSuccess (status : Nat) : Bool := 200 ≤ status && status < 300

/-- The standard phrase for a status. -/
def reasonPhrase : Nat → Text
  | 100 => "Continue"
  | 101 => "Switching Protocols"
  | 102 => "Processing"
  | 103 => "Early Hints"
  | 300 => "Multiple Choices"
  | 301 => "Moved Permanently"
  | 302 => "Found"
  | 303 => "See Other"
  | 304 => "Not Modified"
  | 305 => "Use Proxy"
  | 307 => "Temporary Redirect"
  | 308 => "Permanent Redirect"
  | 400 => "Bad Request"
  | 401 => "Unauthorized"
  | 402 => "Payment Required"
  | 403 => "Forbidden"
  | 404 => "Not Found"
  | 405 => "Method Not Allowed"
  | 406 => "Not Acceptable"
  | 407 => "Proxy Authentication Required"
  | 408 => "Request Timeout"
  | 409 => "Conflict"
  | 410 => "Gone"
  | 411 => "Length Required"
  | 412 => "Precondition Failed"
  | 413 => "Request Entity Too Large"
  | 414 => "Request-URI Too Long"
  | 415 => "Unsupported Media Type"
  | 416 => "Requested Range Not Satisfiable"
  | 417 => "Expectation Failed"
  | 418 => "I'm a teapot"
  | 421 => "Misdirected Request"
  | 422 => "Unprocessable Entity"
  | 423 => "Locked"
  | 424 => "Failed Dependency"
  | 425 => "Too Early"
  | 426 => "Upgrade Required"
  | 428 => "Precondition Required"
  | 429 => "Too Many Requests"
  | 431 => "Request Header Fields Too Large"
  | 451 => "Unavailable For Legal Reasons"
  | 500 => "Internal Server Error"
  | 501 => "Not Implemented"
  | 502 => "Bad Gateway"
  | 503 => "Service Unavailable"
  | 504 => "Gateway Timeout"
  | 505 => "HTTP Version Not Supported"
  | 506 => "Variant Also Negotiates"
  | 507 => "Insufficient Storage"
  | 508 => "Loop Detected"
  | 510 => "Not Extended"
  | 511 => "Network Authentication Required"
  | _ => ""

/-- The class of a status that does not stand for success. -/
def statusClass (status : Nat) : Text :=
  match status / 100 with
  | 1 => "Informational response"
  | 3 => "Redirect response"
  | 4 => "Client error"
  | 5 => "Server error"
  | _ => "Invalid status code"

/-- Where the meaning of a status is explained. -/
def statusReference (status : Nat) : Text :=
  "https://developer.mozilla.org/en-US/docs/Web/HTTP/Status/" ++ Text.ofInt status

/-- What is said about an answer with a status of failure. -/
def statusComplaint (status : Nat) (url : Text) : Text :=
  statusClass status ++ " '" ++ Text.ofInt status ++ " " ++ reasonPhrase status ++ "' for url '" ++
    url ++ "'\nFor more information check: " ++ statusReference status

end ChannelConsole.Network
