import WarmupGate.Span
import WarmupGate.Pod
import WarmupGate.Text.Integer

/-!
# Warmup plans

A plan says where a pod receives its warmup requests, how many, and over which window. The schedule
follows from it: request k is due at the k-th of equal parts of the window, rounded down to the
nanosecond, and every request has the time of one part, but at least one second and at most ten.
-/
namespace WarmupGate.Warmup

structure Plan where
  /-- The path that is requested. -/
  endpoint : String := "/"
  /-- How many requests are sent. -/
  requests : Nat := 3
  /-- The time over which the requests are spread. -/
  window : Span := .ofSeconds 30
  port : Nat := 0
  address : Option String := none
  podName : String := ""
  ns : String := ""
  deriving DecidableEq, Repr

def normalizePath (path : String) : String :=
  match path.toList with
  | '/' :: _ => path
  | _ => "/" ++ path

namespace Plan

def minWindow : Span := .ofSeconds 1
def minTimeout : Span := .ofSeconds 1
def maxTimeout : Span := .ofSeconds 10

/-- A colon address stands in brackets, unless it has some already. -/
def hostText (address : String) : String :=
  if address.toList.contains ':' && address.toList.head? != some '[' then "[" ++ address ++ "]"
  else address

/-- The web address of the endpoint at a pod's address. -/
def url (p : Plan) (address : String) : String :=
  "http://" ++ hostText address ++ ":" ++ Text.decimal p.port ++ normalizePath p.endpoint

def requestTimeout (p : Plan) : Span :=
  Span.clamp minTimeout maxTimeout ⟨p.window.nanos / max 1 p.requests⟩

/-- The time from the start of the run to request k. Beyond 64 bits it is the whole window. -/
def offset (p : Plan) (k : Nat) : Span :=
  let nanos := p.window.nanos * k / max 1 p.requests
  if nanos < Word.size 64 then ⟨nanos⟩ else p.window

end Plan
end WarmupGate.Warmup
