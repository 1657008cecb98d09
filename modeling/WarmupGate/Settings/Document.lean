import WarmupGate.Json.Record
import WarmupGate.Settings
import WarmupGate.Text.Integer

/-!
# Settings as JSON

Settings are written as an object with all their members in a fixed order. They are read from an
object with its members in any order, or from a list of all of them. A member without a value may be
null or left out; every other one has to be there. The texts are a library's business.
-/
namespace WarmupGate

namespace Endpoint

def toJson (e : Endpoint) : Json :=
  .object [("port", .int e.port.toNat), ("host", .string e.host)]

/-- The members of an endpoint that were read so far. -/
structure Draft where
  port : Option UInt16 := none
  host : Option String := none
  deriving DecidableEq, Repr

end Endpoint

namespace Json.Library

def word16 (lib : Library) : Reader UInt16 := fun s =>
  (lib.natural (Word.size 16) s).map fun p => (UInt16.ofNat p.1, p.2)

def word64 (lib : Library) : Reader UInt64 := fun s =>
  (lib.natural (Word.size 64) s).map fun p => (UInt64.ofNat p.1, p.2)

end Json.Library

namespace Endpoint

open Json in
def members (lib : Library) : List (Member Draft) :=
  [⟨"port", (·.port.isSome), into lib.word16 fun d v => { d with port := some v }⟩,
    ⟨"host", (·.host.isSome), into lib.string fun d v => { d with host := some v }⟩]

def Draft.finish (d : Draft) : Option Endpoint := do
  pure { port := ← d.port, host := ← d.host }

def reader (lib : Json.Library) : Json.Reader Endpoint := lib.record (members lib) {} Draft.finish

end Endpoint

namespace Settings

def optionalJson {α : Type} (toJson : α → Json) : Option α → Json
  | some a => toJson a
  | none => .null

def toJson (s : Settings) : Json :=
  .object
    [("namespace", optionalJson .string s.ns), ("node_name", optionalJson .string s.node),
      ("concurrency", .int s.concurrency.toNat),
      ("requeue_delay_secs", .int s.requeueSeconds.toNat),
      ("error_requeue_secs", .int s.errorRequeueSeconds.toNat),
      ("warmup_enabled", .bool s.warmup), ("metrics", optionalJson Endpoint.toJson s.metrics),
      ("health", s.health.toJson), ("log_dir", optionalJson .string s.logDir),
      ("log_level", optionalJson .string s.logLevel), ("log_json", .bool s.logJson)]

def document (lib : Json.Library) (s : Settings) : String := lib.text s.toJson

/-- The members of settings that were read so far. -/
structure Draft where
  ns : Option (Option String) := none
  node : Option (Option String) := none
  concurrency : Option UInt16 := none
  requeueSeconds : Option UInt64 := none
  errorRequeueSeconds : Option UInt64 := none
  warmup : Option Bool := none
  metrics : Option (Option Endpoint) := none
  health : Option Endpoint := none
  logDir : Option (Option String) := none
  logLevel : Option (Option String) := none
  logJson : Option Bool := none
  deriving DecidableEq, Repr

open Json in
def members (lib : Library) : List (Member Draft) :=
  [⟨"namespace", (·.ns.isSome), into (lib.option lib.string) fun d v => { d with ns := some v }⟩,
    ⟨"node_name", (·.node.isSome),
      into (lib.option lib.string) fun d v => { d with node := some v }⟩,
    ⟨"concurrency", (·.concurrency.isSome),
      into lib.word16 fun d v => { d with concurrency := some v }⟩,
    ⟨"requeue_delay_secs", (·.requeueSeconds.isSome),
      into lib.word64 fun d v => { d with requeueSeconds := some v }⟩,
    ⟨"error_requeue_secs", (·.errorRequeueSeconds.isSome),
      into lib.word64 fun d v => { d with errorRequeueSeconds := some v }⟩,
    ⟨"warmup_enabled", (·.warmup.isSome), into lib.bool fun d v => { d with warmup := some v }⟩,
    ⟨"metrics", (·.metrics.isSome),
      into (lib.option (Endpoint.reader lib)) fun d v => { d with metrics := some v }⟩,
    ⟨"health", (·.health.isSome),
      into (Endpoint.reader lib) fun d v => { d with health := some v }⟩,
    ⟨"log_dir", (·.logDir.isSome),
      into (lib.option lib.string) fun d v => { d with logDir := some v }⟩,
    ⟨"log_level", (·.logLevel.isSome),
      into (lib.option lib.string) fun d v => { d with logLevel := some v }⟩,
    ⟨"log_json", (·.logJson.isSome), into lib.bool fun d v => { d with logJson := some v }⟩]

/-- Settings from a draft that holds all that cannot be left out. -/
def Draft.finish (d : Draft) : Option Settings := do
  pure
    { ns := d.ns.join
      node := d.node.join
      concurrency := ← d.concurrency
      requeueSeconds := ← d.requeueSeconds
      errorRequeueSeconds := ← d.errorRequeueSeconds
      warmup := ← d.warmup
      metrics := d.metrics.join
      health := ← d.health
      logDir := d.logDir.join
      logLevel := d.logLevel.join
      logJson := ← d.logJson }

def reader (lib : Json.Library) : Json.Reader Settings := lib.record (members lib) {} Draft.finish

def ofDocument (lib : Json.Library) (text : String) : Except Json.Fault Settings :=
  lib.whole (reader lib) text.toList

end Settings
end WarmupGate
