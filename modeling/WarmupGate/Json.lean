/-!
# JSON values

The values of the data format. A number is kept as an integer over a power of ten, so nothing is
rounded; the members of an object keep their order. A merge patch describes a change of a value by a
value: a patch that is no object replaces the target, and an object patches member by member, where
null removes a member and anything else is applied to the member that is there.
-/
namespace WarmupGate

inductive Json where
  | null
  | bool (value : Bool)
  | number (unscaled : Int) (places : Nat)
  | string (value : String)
  | array (items : List Json)
  | object (members : List (String × Json))
  deriving Repr, Inhabited

namespace Json

def int (n : Int) : Json := .number n 0

/-- The members of an object; none for every other value. -/
def members : Json → List (String × Json)
  | .object ms => ms
  | _ => []

def get? (name : String) (v : Json) : Option Json := v.members.lookup name

def string? : Json → Option String
  | .string s => some s
  | _ => none

/-- The value of a number without places behind the point. -/
def int? : Json → Option Int
  | .number n 0 => some n
  | _ => none

def items? : Json → Option (List Json)
  | .array items => some items
  | _ => none

/-- Puts a value in the place of the member with this name, or behind all others. -/
def insertMember (name : String) (v : Json) : List (String × Json) → List (String × Json)
  | [] => [(name, v)]
  | (n, old) :: rest => if n = name then (n, v) :: rest else (n, old) :: insertMember name v rest

def eraseMember (name : String) (ms : List (String × Json)) : List (String × Json) :=
  ms.filter (fun m => m.1 != name)

mutual

def mergePatch (target : Json) : Json → Json
  | .object changes => .object (mergeMembers target.members changes)
  | .null => .null
  | .bool b => .bool b
  | .number n p => .number n p
  | .string s => .string s
  | .array items => .array items

/-- The members of an object after the changes, which are applied from first to last. -/
def mergeMembers (ms : List (String × Json)) : List (String × Json) → List (String × Json)
  | [] => ms
  | (name, change) :: rest =>
    match change with
    | .null => mergeMembers (eraseMember name ms) rest
    | change =>
      mergeMembers (insertMember name (mergePatch ((ms.lookup name).getD .null) change) ms) rest

end

end Json
end WarmupGate
