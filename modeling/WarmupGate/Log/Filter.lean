import WarmupGate.Log.Level
import WarmupGate.Text.Quoted

/-!
# Log filters

A filter is a list of directives. A directive says which targets it is about, by how their names
begin, and from which level on their events pass. The directive with the longest beginning decides,
and of two with the same beginning the later one. Filters are written as directives with commas
between them. A filter that somebody wrote is refused as a whole when one directive is wrong; one
that is put together from a list of targets loses just the wrong ones.
-/
namespace WarmupGate.Log

structure Directive where
  /-- How the targets begin; without it, all of them are meant. -/
  target : Option String := none
  /-- The lowest level that passes; without it, nothing does. -/
  limit : Option Level
  /-- Only events inside of a span are meant. -/
  inSpan : Bool := false
  deriving DecidableEq, Repr

namespace Directive

/-- The levels as they are written in directives, also by number. -/
def limit? (word : List Char) : Option (Option Level) :=
  match String.ofList (Level.lowerAscii word) with
  | "off" => some none
  | "0" => some none
  | "error" => some (some .error)
  | "1" => some (some .error)
  | "warn" => some (some .warn)
  | "2" => some (some .warn)
  | "info" => some (some .info)
  | "3" => some (some .info)
  | "debug" => some (some .debug)
  | "4" => some (some .debug)
  | "trace" => some (some .trace)
  | "5" => some (some .trace)
  | _ => none

def isNameChar (c : Char) : Bool :=
  c.isAlphanum || c == '_' || c == '-' || c == ':' || (0x7f < c.toNat && !Text.isUnprintable c)

/-- A target name, a span in brackets, or both: the name and whether there is a span. -/
def readScope? (s : List Char) : Option (List Char × Bool) :=
  let name := s.takeWhile isNameChar
  match s.dropWhile isNameChar with
  | [] => if name.isEmpty then none else some (name, false)
  | '[' :: rest =>
    if rest.dropWhile (· != ']') == [']'] then some (name, true) else none
  | _ => none

/-- A name that is also the name of a level is no target. -/
def ofScope (scope : List Char × Bool) (limit : Option Level) : Directive :=
  let target :=
    if scope.1.isEmpty || (limit? scope.1).isSome then none else some (String.ofList scope.1)
  { target, limit, inSpan := scope.2 }

/-- A level, a target, or a target with its level. A target alone lets everything pass. -/
def read? (s : List Char) : Option Directive :=
  match limit? s with
  | some limit => some { limit }
  | none =>
    let scope := s.takeWhile (· != '=')
    match s.dropWhile (· != '=') with
    | [] => (readScope? scope).map (ofScope · (some .trace))
    | ['='] => (readScope? scope).map (ofScope · (some .trace))
    | _ :: word => do
      let scope ← readScope? scope
      let limit ← limit? word
      pure (ofScope scope limit)

/-- The directive is about events of a target outside of spans. -/
def covers (d : Directive) (target : String) : Bool :=
  !d.inSpan && (d.target.getD "").toList.isPrefixOf target.toList

/-- Grows with the length of the beginning; no beginning is less than an empty one. -/
def weight (d : Directive) : Nat :=
  match d.target with
  | none => 0
  | some t => t.utf8ByteSize + 1

end Directive

abbrev Filter := List Directive

namespace Filter

/-- The directives between the commas; empty ones are left out. -/
def parts (s : String) : List (List Char) :=
  (s.splitOn ",").map String.toList |>.filter (!·.isEmpty)

/-- The filter that somebody wrote. An empty one lets nothing pass. -/
def read? (s : String) : Option Filter :=
  match (parts s).mapM Directive.read? with
  | none => none
  | some [] => some [{ limit := none }]
  | some f => some f

/-- The filter that lets a list of targets pass from a level on. Without a valid target, errors of
all targets pass. -/
def ofTargets (targets : List String) (level : Level) : Filter :=
  let word := String.ofList (Level.lowerAscii level.name.toList)
  let written := ",".intercalate (targets.map (· ++ "=" ++ word))
  match (parts written).filterMap Directive.read? with
  | [] => [{ limit := some .error }]
  | f => f

/-- The directive that decides about a target. -/
def deciding (f : Filter) (target : String) : Option Directive :=
  f.foldl
    (fun best d =>
      if d.covers target && best.all (fun b => decide (b.weight ≤ d.weight)) then some d else best)
    none

def passes (f : Filter) (level : Level) (target : String) : Bool :=
  ((deciding f target).bind Directive.limit).any (fun l => decide (l.severity ≤ level.severity))

end Filter
end WarmupGate.Log
