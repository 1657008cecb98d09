import WarmupGate.Net.Address
import WarmupGate.Settings

/-!
# What the process serves

Metrics are served on one socket. A host that is no address stands for every address of the machine,
and the buckets that durations are sorted into are checked before the socket is tried. On another
one, two paths tell the outside that the process is alive, and whether the controller has started.
They answer to the exact path, whatever query or fragment follows it; a question for a body without
the body is allowed, and every other way of asking is refused.
-/
namespace WarmupGate.Service
namespace MetricsServer

inductive Fault where
  | emptyBuckets
  /-- The address cannot be had, for a reason that the machine gives. -/
  | noListener (reason : String)
  deriving DecidableEq, Repr

def Fault.message : Fault → String
  | .emptyBuckets => "bucket bounds/quantiles cannot be empty"
  | .noListener reason => "failed to create HTTP listener: " ++ reason

def socket (e : Endpoint) : Net.Socket :=
  ⟨(Net.Address.read? e.host.toList).getD .unspecified, e.port⟩

/-- Starts to serve with a number of buckets, if they are not the usual ones. A machine that does
not give a socket away says why. -/
def start (e : Endpoint) (buckets : Option Nat) (refusal? : Net.Socket → Option String) :
    Except Fault Unit :=
  if buckets = some 0 then .error .emptyBuckets
  else
    match refusal? (socket e) with
    | some reason => .error (.noListener reason)
    | none => .ok ()

end MetricsServer

structure ProbeAnswer where
  status : Nat
  body : String := ""
  deriving DecidableEq, Repr

structure Probe where
  ready : Bool := false
  deriving DecidableEq, Repr

namespace Probe

/-- Where probes are served, if the host is an address and not a name. -/
def socket? (e : Endpoint) : Option Net.Socket :=
  (Net.Address.read? e.host.toList).map (⟨·, e.port⟩)

def alive : ProbeAnswer := { status := 200, body := "OK" }

def readiness (p : Probe) : ProbeAnswer :=
  if p.ready then { status := 200, body := "OK" }
  else { status := 503, body := "controller not started" }

def pathOf (address : String) : String :=
  String.ofList (address.toList.takeWhile fun c => c != '?' && c != '#')

/-- The answer at a path, if there is one. -/
def at? (p : Probe) (path : String) : Option ProbeAnswer :=
  match path with
  | "/healthz" => some alive
  | "/readyz" => some p.readiness
  | _ => none

def respond (p : Probe) (method address : String) : ProbeAnswer :=
  match p.at? (pathOf address) with
  | none => { status := 404 }
  | some a =>
    if method = "GET" then a
    else if method = "HEAD" then { a with body := "" }
    else { status := 405 }

end Probe

end WarmupGate.Service
