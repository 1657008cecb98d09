import WarmupGate.Net.Host

/-!
# Authorities

The authority of an address says where to go and, in front of the last at sign, who asks. A port
that is the scheme's own is left out.
-/
namespace WarmupGate.Net

structure Scheme where
  /-- The name in small letters. -/
  name : List Char
  /-- The port that is meant when none is given. -/
  ownPort : Option Nat := none
  /-- The scheme has rules for hosts and paths. -/
  isSpecial : Bool := false
  deriving DecidableEq, Repr

namespace Scheme

def http : Scheme := { name := "http".toList, ownPort := some 80, isSpecial := true }
def https : Scheme := { name := "https".toList, ownPort := some 443, isSpecial := true }
def file : Scheme := { name := "file".toList, isSpecial := true }

def specials : List Scheme :=
  [http, https, file,
    { name := "ftp".toList, ownPort := some 21, isSpecial := true },
    { name := "ws".toList, ownPort := some 80, isSpecial := true },
    { name := "wss".toList, ownPort := some 443, isSpecial := true }]

def ofName (name : List Char) : Scheme := (specials.find? (·.name == name)).getD { name }

def isWeb (s : Scheme) : Bool := s = http || s = https

/-- The scheme in front of the first colon, and the rest; none if no scheme is named. -/
def split? (s : List Char) : Option (Scheme × List Char) :=
  let (name, rest) := cutAt (fun c => !(c.isAlphanum || c == '+' || c == '-' || c == '.')) s
  match rest with
  | ':' :: rest =>
    if name.head?.any Char.isAlpha then some (ofName (name.map Char.toLower), rest) else none
  | _ => none

end Scheme

structure Authority where
  /-- A name, or a name and a password with a colon between them, in encoded form. -/
  credentials : List Char := []
  /-- A name, a dotted address or a colon address in brackets. -/
  host : List Char
  /-- The port, if it is not the scheme's own. -/
  port : Option Nat := none
  deriving DecidableEq, Repr

namespace Authority

def chars (a : Authority) : List Char :=
  (if a.credentials.isEmpty then [] else a.credentials ++ ['@']) ++ a.host ++
    (match a.port with | some p => ':' :: Text.numeral p | none => [])

/-- What stands in front of the last at sign, and what stands behind it. -/
def splitCredentials (s : List Char) : List Char × List Char :=
  (((s.reverse.dropWhile (· != '@')).drop 1).reverse, (s.reverse.takeWhile (· != '@')).reverse)

/-- Credentials in encoded form; the colon goes with an empty password. -/
def readCredentials (s : List Char) : List Char :=
  let (name, password) := cutAt (· == ':') s
  let password := password.drop 1
  Percent.encode .credentials name ++
    (if password.isEmpty then [] else ':' :: Percent.encode .credentials password)

/-- Host and port: the first colon outside brackets parts them. -/
def splitHostPort (s : List Char) : List Char × List Char :=
  match s with
  | '[' :: _ =>
    let (inside, rest) := cutAt (· == ']') s
    match rest with
    | ']' :: ':' :: port => (inside ++ [']'], port)
    | ']' :: rest => (inside ++ ']' :: rest, [])
    | _ => (s, [])
  | _ =>
    let (host, rest) := cutAt (· == ':') s
    (host, rest.drop 1)

/-- The port behind a host's colon; the outer option is failure, the inner one absence. -/
def readPort? (own : Option Nat) (s : List Char) : Option (Option Nat) :=
  match s with
  | [] => some none
  | digits =>
    if !digits.all Text.isDigit then none
    else
      let n := Text.digitsValue digits
      if 65535 < n then none else if some n = own then some none else some (some n)

def read? (scheme : Scheme) (s : List Char) : Option Authority := do
  let (credentials, place) := splitCredentials s
  let (host, port) := splitHostPort place
  let host ← if scheme.isSpecial then Host.read? host else Host.readAsWritten? host
  let port ← readPort? scheme.ownPort port
  pure { credentials := readCredentials credentials, host, port }

/-- A text can pass for an authority in a request: behind the last at sign it has at most one
colon, and nothing encoded. -/
def isRequestable (s : List Char) : Bool :=
  let (credentials, place) := splitCredentials s
  credentials.all (fun c => Host.isPlain c || [':', '@', '%'].contains c) &&
    !place.isEmpty && place.all (fun c => Host.isPlain c || c == ':') && place.count ':' ≤ 1

end Authority
end WarmupGate.Net
