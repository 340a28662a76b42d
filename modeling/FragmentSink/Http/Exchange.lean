import FragmentSink.Http.Address

/-
  Asking an address of the web for its answer.

  What answers is a parameter; here is decided which addresses
  are asked at all, and how a failure is worded.

  Key definitions include:
    * `Response`
    * `Web.fetch`
    * `FetchFailure.message`
-/

namespace FragmentSink

------------------------------------------------------------
-- Responses
------------------------------------------------------------

/- An answer of the web. -/
structure Response where
  code : Nat
  body : String
deriving DecidableEq, Repr

namespace Response

/- The text of an answer, without a byte-order mark. -/
def text (r : Response) : String :=
  match r.body.toList with
  | '\uFEFF' :: cs => .ofList cs
  | _ => r.body

/- The standard reason of a code. -/
def reason? (code : Nat) : Option String :=
  match code with
  | 100 => "Continue"
  | 101 => "Switching Protocols"
  | 102 => "Processing"
  | 200 => "OK"
  | 201 => "Created"
  | 202 => "Accepted"
  | 203 => "Non Authoritative Information"
  | 204 => "No Content"
  | 205 => "Reset Content"
  | 206 => "Partial Content"
  | 207 => "Multi-Status"
  | 208 => "Already Reported"
  | 226 => "IM Used"
  | 300 => "Multiple Choices"
  | 301 => "Moved Permanently"
  | 302 => "Found"
  | 303 => "See Other"
  | 304 => "Not Modified"
  | 305 => "Use Proxy"
  | 307 => "Temporary Redirect"
  | 308 => "Permanent Redirect"
  | 400 => "Bad Request"
  | 401 => "Unauthorized"
  | 402 => "Payment Required"
  | 403 => "Forbidden"
  | 404 => "Not Found"
  | 405 => "Method Not Allowed"
  | 406 => "Not Acceptable"
  | 407 => "Proxy Authentication Required"
  | 408 => "Request Timeout"
  | 409 => "Conflict"
  | 410 => "Gone"
  | 411 => "Length Required"
  | 412 => "Precondition Failed"
  | 413 => "Payload Too Large"
  | 414 => "URI Too Long"
  | 415 => "Unsupported Media Type"
  | 416 => "Range Not Satisfiable"
  | 417 => "Expectation Failed"
  | 418 => "I'm a teapot"
  | 421 => "Misdirected Request"
  | 422 => "Unprocessable Entity"
  | 423 => "Locked"
  | 424 => "Failed Dependency"
  | 425 => "Too Early"
  | 426 => "Upgrade Required"
  | 428 => "Precondition Required"
  | 429 => "Too Many Requests"
  | 431 => "Request Header Fields Too Large"
  | 451 => "Unavailable For Legal Reasons"
  | 500 => "Internal Server Error"
  | 501 => "Not Implemented"
  | 502 => "Bad Gateway"
  | 503 => "Service Unavailable"
  | 504 => "Gateway Timeout"
  | 505 => "HTTP Version Not Supported"
  | 506 => "Variant Also Negotiates"
  | 507 => "Insufficient Storage"
  | 508 => "Loop Detected"
  | 510 => "Not Extended"
  | 511 => "Network Authentication Required"
  | _ => none

/- A code with its standard reason. -/
def codeText (r : Response) : String :=
  toString r.code ++ " " ++
    (reason? r.code).getD "<unknown status code>"

end Response

------------------------------------------------------------
-- Asking
------------------------------------------------------------

/- Why an address gives no answer. -/
inductive FetchFailure where
/- It is no address. -/
| unreadable
/- It is no address of the web that can be asked. -/
| refused (a : Address)
/- Nothing answers there. -/
| unanswered (a : Address)
deriving DecidableEq, Repr

namespace FetchFailure

/- The wording of a failure. -/
def message : FetchFailure → String
| .unreadable => "builder error"
| .refused a => "builder error for url (" ++ a.text ++ ")"
| .unanswered a =>
    "error sending request for url (" ++ a.text ++ ")"

end FetchFailure

/- What answers at the addresses of the web. -/
abbrev Web := Address → Option Response

namespace Web

/- The web in which nothing answers. -/
def silent : Web := fun _ => none

/- The longest address that is asked, in bytes. -/
def longest : Nat := 65534

/- Whether a host can be asked; a domain name may have characters that no request can hold. -/
def canBeAsked (host : List Char) : Bool :=
  !host.any fun c => ['"', '\x60', '\x7b', '\x7d'].contains c

/- Whether an address can be asked. -/
def admits (a : Address) : Bool :=
  a.isWeb && a.text.utf8ByteSize ≤ longest &&
    a.authority.any fun authority => canBeAsked authority.host

/- Ask a written address; a user is told to the server in other words. -/
def fetch (web : Web) (address : String) : Except FetchFailure Response :=
  match Address.ofText? address with
  | none => .error .unreadable
  | some a =>
      let a := if a.hasHost then a.withoutUser else a
      if admits a then
        match web a with
        | some r => .ok r
        | none => .error (.unanswered a)
      else .error (.refused a)

end Web

end FragmentSink
