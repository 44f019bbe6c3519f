/-!
# Outcomes of delivery attempts

What can come of one attempt to deliver a batch, and under which label failures are counted.
-/

namespace RouterTelemetry.Delivery

/-- The registered phrase of an HTTP status. -/
def reasonPhrase? : Nat → Option String
  | 100 => "Continue"
  | 101 => "Switching Protocols"
  | 102 => "Processing"
  | 103 => "Early Hints"
  | 200 => "OK"
  | 201 => "Created"
  | 202 => "Accepted"
  | 203 => "Non Authoritative Information"
  | 204 => "No Content"
  | 205 => "Reset Content"
  | 206 => "Partial Content"
  | 207 => "Multi-Status"
  | 208 => "Already Reported"
  | 226 => "IM Used"
  | 300 => "Multiple Choices"
  | 301 => "Moved Permanently"
  | 302 => "Found"
  | 303 => "See Other"
  | 304 => "Not Modified"
  | 305 => "Use Proxy"
  | 307 => "Temporary Redirect"
  | 308 => "Permanent Redirect"
  | 400 => "Bad Request"
  | 401 => "Unauthorized"
  | 402 => "Payment Required"
  | 403 => "Forbidden"
  | 404 => "Not Found"
  | 405 => "Method Not Allowed"
  | 406 => "Not Acceptable"
  | 407 => "Proxy Authentication Required"
  | 408 => "Request Timeout"
  | 409 => "Conflict"
  | 410 => "Gone"
  | 411 => "Length Required"
  | 412 => "Precondition Failed"
  | 413 => "Payload Too Large"
  | 414 => "URI Too Long"
  | 415 => "Unsupported Media Type"
  | 416 => "Range Not Satisfiable"
  | 417 => "Expectation Failed"
  | 418 => "I'm a teapot"
  | 421 => "Misdirected Request"
  | 422 => "Unprocessable Entity"
  | 423 => "Locked"
  | 424 => "Failed Dependency"
  | 425 => "Too Early"
  | 426 => "Upgrade Required"
  | 428 => "Precondition Required"
  | 429 => "Too Many Requests"
  | 431 => "Request Header Fields Too Large"
  | 451 => "Unavailable For Legal Reasons"
  | 500 => "Internal Server Error"
  | 501 => "Not Implemented"
  | 502 => "Bad Gateway"
  | 503 => "Service Unavailable"
  | 504 => "Gateway Timeout"
  | 505 => "HTTP Version Not Supported"
  | 506 => "Variant Also Negotiates"
  | 507 => "Insufficient Storage"
  | 508 => "Loop Detected"
  | 510 => "Not Extended"
  | 511 => "Network Authentication Required"
  | _ => none

/-- What the collector's side makes of a request: an answer with a status, or no answer at all. -/
inductive Reply where
  | status (code : Nat)
  | broken
deriving DecidableEq, Repr

/-- Why a batch was not delivered. -/
inductive Failure where
  | transport
  | status (code : Nat)
  | cancelled
deriving DecidableEq, Repr

namespace Failure

/-- The label under which a failure is counted. -/
def label : Failure → String
  | .transport => "net"
  | .status code => toString code
  | .cancelled => "cancelled"

/-- The wording of a failure. -/
def message : Failure → String
  | .transport => "transport error"
  | .status code =>
    "collector answered with status " ++ toString code ++ " "
      ++ (reasonPhrase? code).getD "<unknown status code>"
  | .cancelled => "delivery cancelled"

end Failure

/-- The result of an attempt that was answered so. A status from 200 to 299 is success. -/
def Reply.result : Reply → Except Failure Unit
  | .status code => if 200 ≤ code ∧ code < 300 then .ok () else .error (.status code)
  | .broken => .error .transport

end RouterTelemetry.Delivery
