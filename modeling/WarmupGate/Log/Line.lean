import WarmupGate.Binary64
import WarmupGate.Json
import WarmupGate.Log.Event
import WarmupGate.Text.Quoted

/-!
# Log lines

An event becomes a line: a JSON object with the fields of the event among its own members, or a text
with the values behind the message, painted or plain. The time and the place of the event are given
from outside.
-/
namespace WarmupGate.Log

namespace Value

/-- A real number as a decimal with the fewest places, at least one, that rounds back to it. -/
def decimal (x : Rat) : Int × Nat :=
  let scaled (places : Nat) : Int := Binary64.roundHalfEven (x * (Text.tenPower places : Rat))
  let back (places : Nat) : Bool :=
    Binary64.nearest ((scaled places : Rat) / (Text.tenPower places : Rat)) == x
  let places := ((List.range 1100).map (· + 1)).find? back
  let places := places.getD 1100
  (scaled places, places)

def toJson : Value → Json
  | .text s => .string s
  | .shown s => .string s
  | .flag b => .bool b
  | .number n => .int n
  | .real x => .number (decimal x).1 (decimal x).2

/-- The value where values stand side by side. -/
def inline : Value → String
  | .text s => Text.quote s
  | .shown s => s
  | .flag b => if b then "true" else "false"
  | .number n => Text.decimal n
  | .real x =>
    let (n, places) := decimal x
    String.ofList (Text.pointNumeral n places)

end Value

namespace Line

def toJson (time : String) (e : Event) : Json :=
  .object
    (("timestamp", .string time) :: ("level", .string e.level.name) ::
      (e.members.map (fun m => (m.1, m.2.toJson)) ++ [("target", .string e.target)]))

def colour : Level → String
  | .trace => "35"
  | .debug => "34"
  | .info => "32"
  | .warn => "33"
  | .error => "31"

/-- Sets a text off by a style of the terminal. -/
def style (painted : Bool) (code : String) (s : String) : String :=
  if painted then "\x1b[" ++ code ++ "m" ++ s ++ "\x1b[0m" else s

def dim : String := "2"
def italic : String := "3"

/-- The levels stand right in five columns. -/
def levelColumn (l : Level) : String :=
  String.ofList (List.replicate (5 - l.name.length) ' ') ++ l.name

/-- A value behind the message. One that is called message stands without its name. -/
def fieldText (painted : Bool) (name : String) (v : Value) : String :=
  if name = "message" then " " ++ v.inline
  else " " ++ style painted italic name ++ style painted dim "=" ++ v.inline

def text (painted : Bool) (time place : String) (e : Event) : String :=
  style painted dim time ++ " " ++ style painted (colour e.level) (levelColumn e.level) ++ " " ++
    style painted dim e.target ++ style painted dim ":" ++ " " ++ place ++ " " ++ e.message ++
    String.join (e.fields.map fun f => fieldText painted f.1 f.2)

end Line
end WarmupGate.Log
