import WarmupGate.Json.Scan

/-!
# Skipping values

What follows a value of any kind that nobody asked for. Lists and objects nest without a limit.
-/
namespace WarmupGate.Json

/-- The colon between a name and its value. -/
def skipColon (s : List Char) : Except Fault (List Char) :=
  match skipGap s with
  | [] => .error .ended
  | ':' :: s => .ok s
  | _ => .error .malformed

mutual

/-- Skips one value; each part takes one unit of fuel. -/
def skipWith : Nat → List Char → Except Fault (List Char)
  | 0, _ => .error .ended
  | fuel + 1, s =>
    match skipGap s with
    | [] => .error .ended
    | 'n' :: s => scanWord ['u', 'l', 'l'] s
    | 't' :: s => scanWord ['r', 'u', 'e'] s
    | 'f' :: s => scanWord ['a', 'l', 's', 'e'] s
    | '"' :: s => skipString s
    | '[' :: s =>
      match skipGap s with
      | ']' :: s => .ok s
      | [] => .error .ended
      | s => (skipWith fuel s).bind (skipItems fuel)
    | '\x7b' :: s =>
      match skipGap s with
      | '\x7d' :: s => .ok s
      | s => (skipMember fuel s).bind (skipMembers fuel)
    | c :: s =>
      if c = '-' ∨ Text.isDigit c then skipNumeral (c :: s) else .error .malformed

/-- Skips the items behind an item, up to the end of the list. -/
def skipItems : Nat → List Char → Except Fault (List Char)
  | 0, _ => .error .ended
  | fuel + 1, s =>
    match skipGap s with
    | [] => .error .ended
    | ']' :: s => .ok s
    | ',' :: s => (skipWith fuel s).bind (skipItems fuel)
    | _ => .error .malformed

def skipMember : Nat → List Char → Except Fault (List Char)
  | 0, _ => .error .ended
  | fuel + 1, s =>
    match skipGap s with
    | [] => .error .ended
    | '"' :: s => ((skipString s).bind skipColon).bind (skipWith fuel)
    | _ => .error .malformed

/-- Skips the members behind a member, up to the end of the object. -/
def skipMembers : Nat → List Char → Except Fault (List Char)
  | 0, _ => .error .ended
  | fuel + 1, s =>
    match skipGap s with
    | [] => .error .ended
    | '\x7d' :: s => .ok s
    | ',' :: s => (skipMember fuel s).bind (skipMembers fuel)
    | _ => .error .malformed

end

/-- What follows a value. Every part of it takes a character, so its length is fuel enough. -/
def skipValue (s : List Char) : Except Fault (List Char) := skipWith (s.length + 1) s

end WarmupGate.Json
