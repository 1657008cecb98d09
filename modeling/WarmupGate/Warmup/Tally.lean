import WarmupGate.Span
import WarmupGate.Binary64
import WarmupGate.Text.Integer

/-!
# Hits and their tally

A hit is the outcome of one request. The tally counts hits, remembers what the last failure was, and
gives latencies by nearest rank: the smallest recorded latency that a given share of all recorded
ones does not exceed. Its counts are natural numbers; a tally in words of 32 bits is the same one as
long as nothing leaves a word, and `record?` and `failures?` say when something would.
-/
namespace WarmupGate.Warmup

/-- Outcome of a request: how long it took, the status if there was an answer, the transport error.
-/
structure Hit where
  latency : Span
  status : Option Nat := none
  error : Option String := none
  deriving DecidableEq, Repr

namespace Hit

/-- Only an answer in the 200s without a transport error is a success. -/
def succeeded (h : Hit) : Bool :=
  h.error.isNone && h.status.any (fun code => 200 ≤ code && code < 300)

def complaint? (h : Hit) : Option String :=
  h.error <|> h.status.map (fun code => "HTTP " ++ Text.decimal code)

end Hit

structure Tally where
  /-- Latencies of all hits, newest first. -/
  latencies : List Span := []
  successes : Nat := 0
  lastError : Option String := none
  deriving DecidableEq, Repr

namespace Tally

def empty : Tally := {}

def record (t : Tally) (h : Hit) : Tally :=
  { latencies := h.latency :: t.latencies
    successes := if h.succeeded then t.successes + 1 else t.successes
    lastError := if h.succeeded then t.lastError else h.complaint? <|> t.lastError }

def ofHits (hits : List Hit) : Tally := hits.foldl record empty

def requests (t : Tally) : Nat := t.latencies.length
def failures (t : Tally) : Nat := t.requests - t.successes

/-- Records a hit if the number of successes stays within its word. -/
def record? (t : Tally) (h : Hit) : Option Tally :=
  if (t.record h).successes < Word.size 32 then some (t.record h) else none

/-- The tally of hits if no word is left on the way. -/
def ofHits? (hits : List Hit) : Option Tally := hits.foldlM record? empty

/-- The number of requests as far as a word holds it. -/
def requestsWord (t : Tally) : Nat := t.requests % Word.size 32

/-- The failures as a difference of words, which has to be there. -/
def failures? (t : Tally) : Option Nat :=
  if t.successes ≤ t.requestsWord then some (t.requestsWord - t.successes) else none

/-- The rank that a share has among n values, from 1 to n: the product in double precision, rounded
up. -/
def rank (share : Rat) (n : Nat) : Nat :=
  max 1 (min n (Binary64.nearest (share * (n : Rat))).ceil.toNat)

def sorted (t : Tally) : List Span := t.latencies.mergeSort (fun a b => a.nanos ≤ b.nanos)

/-- The latency at the rank of a share; zero when nothing was recorded. -/
def percentile (t : Tally) (share : Rat) : Span :=
  (t.sorted[rank share t.requests - 1]?).getD Span.zero

/-- One half and ninety-nine hundredths, as double precision has them. -/
def median : Rat := Binary64.nearest (1 / 2)
def ninetyNinth : Rat := Binary64.nearest (99 / 100)

end Tally
end WarmupGate.Warmup
