import WarmupGate.Settings.Check

/-!
# Editing settings

Settings are made from the default ones by edits, each of which sets one field and leaves the others
alone. What may be missing is given by one edit, and given or taken away by another. Rebuilding
starts a new sequence of edits from what was reached; starting over forgets it.
-/
namespace WarmupGate.Settings

inductive Edit where
  | ns (name : String)
  | maybeNs (name : Option String)
  | node (name : String)
  | maybeNode (name : Option String)
  | concurrency (count : UInt16)
  | requeueSeconds (count : UInt64)
  | errorRequeueSeconds (count : UInt64)
  | warmup (enabled : Bool)
  | disableWarmup
  | metrics (host : String) (port : UInt16)
  | maybeMetrics (endpoint : Option Endpoint)
  | health (host : String) (port : UInt16)
  | maybeLogDir (path : Option String)
  | maybeLogLevel (name : Option String)
  | logJson (enabled : Bool)
  | rebuild
  | startOver
  deriving DecidableEq, Repr

def edit (s : Settings) : Edit → Settings
  | .ns name => { s with ns := some name }
  | .maybeNs name => { s with ns := name }
  | .node name => { s with node := some name }
  | .maybeNode name => { s with node := name }
  | .concurrency count => { s with concurrency := count }
  | .requeueSeconds count => { s with requeueSeconds := count }
  | .errorRequeueSeconds count => { s with errorRequeueSeconds := count }
  | .warmup enabled => { s with warmup := enabled }
  | .disableWarmup => { s with warmup := false }
  | .metrics host port => { s with metrics := some ⟨port, host⟩ }
  | .maybeMetrics endpoint => { s with metrics := endpoint }
  | .health host port => { s with health := ⟨port, host⟩ }
  | .maybeLogDir path => { s with logDir := path }
  | .maybeLogLevel name => { s with logLevel := name }
  | .logJson enabled => { s with logJson := enabled }
  | .rebuild => s
  | .startOver => {}

def ofEdits (edits : List Edit) : Settings := edits.foldl edit {}

/-- The default settings after all edits, if they keep the rules. -/
def build (edits : List Edit) : Except Fault Settings := do
  let s := ofEdits edits
  check s
  pure s

end WarmupGate.Settings
