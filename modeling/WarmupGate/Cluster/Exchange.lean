import WarmupGate.Cluster.Fault
import WarmupGate.Json

/-!
# Requests to the cluster and its answers

What goes over the wire between the controller and the cluster, as far as the controller decides it
or depends on it. An answer with a code below 400 is accepted whatever it says. Any other one is a
refusal; a body that does not describe it takes the place of the message.
-/
namespace WarmupGate.Cluster

inductive Content (α : Type) where
  /-- A new object. -/
  | whole (object : α)
  /-- A merge patch. -/
  | change (patch : α)
  deriving Repr

structure Request (α : Type) where
  path : String
  content : Content α
  deriving Repr

namespace Request

variable {α : Type}

def method (r : Request α) : String :=
  match r.content with
  | .whole _ => "POST"
  | .change _ => "PATCH"

def contentType (r : Request α) : String :=
  match r.content with
  | .whole _ => "application/json"
  | .change _ => "application/merge-patch+json"

def body (r : Request α) : α :=
  match r.content with
  | .whole a => a
  | .change a => a

end Request

inductive Response where
  /-- A body that describes a refusal; it repeats the code. -/
  | described (code : Nat) (message reason : String)
  /-- Any other body. -/
  | bare (code : Nat) (body : String)
  deriving DecidableEq, Repr

def codeName (code : Nat) : String :=
  match code with
  | 400 => "Bad Request"
  | 401 => "Unauthorized"
  | 402 => "Payment Required"
  | 403 => "Forbidden"
  | 404 => "Not Found"
  | 405 => "Method Not Allowed"
  | 406 => "Not Acceptable"
  | 407 => "Proxy Authentication Required"
  | 408 => "Request Timeout"
  | 409 => "Conflict"
  | 410 => "Gone"
  | 411 => "Length Required"
  | 412 => "Precondition Failed"
  | 413 => "Payload Too Large"
  | 414 => "URI Too Long"
  | 415 => "Unsupported Media Type"
  | 416 => "Range Not Satisfiable"
  | 417 => "Expectation Failed"
  | 418 => "I'm a teapot"
  | 421 => "Misdirected Request"
  | 422 => "Unprocessable Entity"
  | 423 => "Locked"
  | 424 => "Failed Dependency"
  | 425 => "Too Early"
  | 426 => "Upgrade Required"
  | 428 => "Precondition Required"
  | 429 => "Too Many Requests"
  | 431 => "Request Header Fields Too Large"
  | 451 => "Unavailable For Legal Reasons"
  | 500 => "Internal Server Error"
  | 501 => "Not Implemented"
  | 502 => "Bad Gateway"
  | 503 => "Service Unavailable"
  | 504 => "Gateway Timeout"
  | 505 => "HTTP Version Not Supported"
  | 506 => "Variant Also Negotiates"
  | 507 => "Insufficient Storage"
  | 508 => "Loop Detected"
  | 510 => "Not Extended"
  | 511 => "Network Authentication Required"
  | _ => "<unknown status code>"

namespace Response

def code : Response → Nat
  | .described code _ _ => code
  | .bare code _ => code

/-- What the cluster objects to; none if it accepts. -/
def refusal? (r : Response) : Option Refusal :=
  if r.code < 400 then none
  else
    match r with
    | .described code message reason => some { status := "Failure", message, reason, code }
    | .bare code body =>
      some <| (Refusal.ofText? body).getD
        { status := Text.decimal code ++ " " ++ codeName code
          message := Text.quote body
          reason := "Failed to parse error data"
          code }

end Response
end WarmupGate.Cluster
