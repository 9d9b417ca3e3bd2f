/-!
# Status codes

A status code says how a request ended. The codes from 200 to 299 are successes, those from 400 to
599 are errors, and five of the codes between them can send the client to another place.
-/

namespace IamLogin

/-- A status code. -/
structure Status where
  /-- The number. -/
  code : Nat
deriving DecidableEq, Repr

namespace Status

/-- Whether the request succeeded. -/
def isSuccess (s : Status) : Bool := 200 ≤ s.code && s.code ≤ 299

/-- Whether the client or the server is at fault. -/
def isError (s : Status) : Bool := 400 ≤ s.code && s.code ≤ 599

/-- Whether the answer can name another place to ask. -/
def isRedirect (s : Status) : Bool :=
  s.code = 301 || s.code = 302 || s.code = 303 || s.code = 307 || s.code = 308

/-- The phrase that goes with a code; it is empty for codes without a meaning of their own. -/
def reason (s : Status) : String :=
  match s.code with
  | 100 => "Continue"
  | 101 => "Switching Protocols"
  | 102 => "Processing"
  | 103 => "Early Hints"
  | 200 => "OK"
  | 201 => "Created"
  | 202 => "Accepted"
  | 203 => "Non-Authoritative Information"
  | 204 => "No Content"
  | 205 => "Reset Content"
  | 206 => "Partial Content"
  | 207 => "Multi-Status"
  | 208 => "Already Reported"
  | 226 => "IM Used"
  | 300 => "Multiple Choices"
  | 301 => "Moved Permanently"
  | 302 => "Found"
  | 303 => "See Other"
  | 304 => "Not Modified"
  | 305 => "Use Proxy"
  | 307 => "Temporary Redirect"
  | 308 => "Permanent Redirect"
  | 400 => "Bad Request"
  | 401 => "Unauthorized"
  | 402 => "Payment Required"
  | 403 => "Forbidden"
  | 404 => "Not Found"
  | 405 => "Method Not Allowed"
  | 406 => "Not Acceptable"
  | 407 => "Proxy Authentication Required"
  | 408 => "Request Timeout"
  | 409 => "Conflict"
  | 410 => "Gone"
  | 411 => "Length Required"
  | 412 => "Precondition Failed"
  | 413 => "Request Entity Too Large"
  | 414 => "Request-URI Too Long"
  | 415 => "Unsupported Media Type"
  | 416 => "Requested Range Not Satisfiable"
  | 417 => "Expectation Failed"
  | 418 => "I'm a teapot"
  | 421 => "Misdirected Request"
  | 422 => "Unprocessable Entity"
  | 423 => "Locked"
  | 424 => "Failed Dependency"
  | 425 => "Too Early"
  | 426 => "Upgrade Required"
  | 428 => "Precondition Required"
  | 429 => "Too Many Requests"
  | 431 => "Request Header Fields Too Large"
  | 451 => "Unavailable For Legal Reasons"
  | 500 => "Internal Server Error"
  | 501 => "Not Implemented"
  | 502 => "Bad Gateway"
  | 503 => "Service Unavailable"
  | 504 => "Gateway Timeout"
  | 505 => "HTTP Version Not Supported"
  | 506 => "Variant Also Negotiates"
  | 507 => "Insufficient Storage"
  | 508 => "Loop Detected"
  | 510 => "Not Extended"
  | 511 => "Network Authentication Required"
  | _ => ""

/-- No code is a success and an error at once. -/
theorem isError_eq_false_of_isSuccess {s : Status} (h : s.isSuccess = true) :
    s.isError = false := by
  simp only [isSuccess, isError, Bool.and_eq_true, decide_eq_true_eq, Bool.and_eq_false_iff,
    decide_eq_false_iff_not] at *
  omega

/-- A success does not name another place to ask. -/
theorem isRedirect_eq_false_of_isSuccess {s : Status} (h : s.isSuccess = true) :
    s.isRedirect = false := by
  simp only [isSuccess, isRedirect, Bool.and_eq_true, decide_eq_true_eq, Bool.or_eq_false_iff,
    decide_eq_false_iff_not] at *
  omega

/-- Nor does an error. -/
theorem isRedirect_eq_false_of_isError {s : Status} (h : s.isError = true) :
    s.isRedirect = false := by
  simp only [isError, isRedirect, Bool.and_eq_true, decide_eq_true_eq, Bool.or_eq_false_iff,
    decide_eq_false_iff_not] at *
  omega

end Status

end IamLogin
