import WarmupGate.Net.Url

/-!
# Targets of requests

A target answers requests in the order in which they arrive. An answer has a head, which comes after
a delay, and a body some time later; it may fail instead, or point to another address. What an
answer comes to, and when, follows from the answer and the address that was asked.
-/
namespace WarmupGate.Warmup

inductive Breakdown where
  /-- The connection closes without a byte. -/
  | closed
  /-- The connection closes in the middle of the body. -/
  | truncated
  /-- Nothing ever comes. -/
  | silent
  deriving DecidableEq, Repr

structure Answer where
  status : Nat := 200
  /-- Milliseconds until the head. -/
  delay : Nat := 0
  /-- Milliseconds from the head to the body. -/
  bodyDelay : Nat := 0
  emptyBody : Bool := false
  location : Option String := none
  breakdown : Option Breakdown := none
  deriving DecidableEq, Repr

/-- The answer to the i-th request to arrive. -/
abbrev Target := Nat → Answer

/-- A target that goes through a list of answers and repeats the last one. -/
def Target.ofList (answers : List Answer) : Target := fun i =>
  match answers[i]? with
  | some a => a
  | none => answers.getLast?.getD {}

/-- What happens next to a request in flight. -/
inductive Turn where
  /-- It ends, with a status if there was a head and an error if the transfer failed. -/
  | ends (status : Option Nat) (error : Option String)
  /-- It goes on where the answer leads. -/
  | follows (lead : Net.Url.Lead)
  deriving DecidableEq, Repr

/-- The words of the client for its failures. They name the address that was asked first, also when
the request was led on; or the last one if it was led on too often, or to where it cannot go. -/
def sendError (url : Net.Url) : String := "error sending request for url (" ++ url.fullText ++ ")"
def bodyError : String := "error decoding response body"
def redirectError (url : Net.Url) : String :=
  "error following redirect for url (" ++ url.text ++ ")"
def addressError : String := "builder error"
def unusableError (address : String) : String := "builder error for url (" ++ address ++ ")"

/-- Why no request arrives at an address, if none does. Nothing answers behind a secure address. -/
def unreachable? (asked url : Net.Url) : Option String :=
  if !url.isRequestable then some (unusableError asked.fullText)
  else if url.scheme = .https then some (sendError asked)
  else none

namespace Answer

def redirects (a : Answer) : Bool := [301, 302, 303, 307, 308].contains a.status

def bodiless (a : Answer) : Bool := a.status == 204 || a.status == 304

/-- Where the answer to a request leads, if it does. -/
def lead? (a : Answer) (url : Net.Url) : Option Net.Url.Lead :=
  if a.redirects then a.location.bind (fun l => url.follow? l.toList) else none

/-- The turn that an answer brings and the milliseconds until then; none if it never comes. -/
def turn (a : Answer) (asked url : Net.Url) : Option (Nat × Turn) :=
  match a.breakdown with
  | some .silent => none
  | some .closed => some (a.delay, .ends none (some (sendError asked)))
  | breakdown =>
    match a.lead? url with
    | some lead => some (a.delay, .follows lead)
    | none =>
      if a.bodiless then some (a.delay, .ends (some a.status) none)
      else if breakdown = some .truncated then
        some (a.delay + a.bodyDelay, .ends (some a.status) (some bodyError))
      else if a.emptyBody then some (a.delay, .ends (some a.status) none)
      else some (a.delay + a.bodyDelay, .ends (some a.status) none)

/-- The milliseconds until the head; none if it never comes. -/
def headAfter? (a : Answer) : Option Nat :=
  match a.breakdown with
  | some .silent => none
  | some .closed => none
  | _ => some a.delay

/-- How a request ends whose time is up so many milliseconds after its arrival: with the head at
hand, it is the body that failed. -/
def expiry (a : Answer) (asked : Net.Url) (left : Nat) : Turn :=
  if a.headAfter?.any (· < left) then .ends (some a.status) (some bodyError)
  else .ends none (some (sendError asked))

end Answer
end WarmupGate.Warmup
