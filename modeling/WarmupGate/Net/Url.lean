import WarmupGate.Net.Authority
import WarmupGate.Net.Path

/-!
# Web addresses

Addresses in the normal form in which a client requests them: the scheme in small letters, the host
in ASCII, the scheme's own port left out, dot segments resolved, and characters that may not stand
in a part percent-encoded. `read?` takes an absolute address of a web scheme; `follow?` takes a
reference that was found at an address and says what it leads to.
-/
namespace WarmupGate.Net

structure Url where
  scheme : Scheme := .http
  authority : Authority
  /-- The path with its leading slash. -/
  path : List Char
  query : Option (List Char) := none
  /-- Names a part of what the address holds, and is never requested. -/
  fragment : Option (List Char) := none
  deriving DecidableEq, Repr

namespace Url

def chars (u : Url) : List Char :=
  u.scheme.name ++ "://".toList ++ u.authority.chars ++ u.path ++
    (match u.query with | some q => '?' :: q | none => [])

def text (u : Url) : String := String.ofList u.chars

def fullText (u : Url) : String :=
  String.ofList (u.chars ++ (match u.fragment with | some f => '#' :: f | none => []))

/-- A request can be made out for the address. -/
def isRequestable (u : Url) : Bool := Host.isRequestable u.authority.host

/-- The address without the credentials in it, which a client sends apart. -/
def withoutCredentials (u : Url) : Url :=
  { u with authority := { u.authority with credentials := [] } }

def isSlash (c : Char) : Bool := c == '/' || c == '\\'

/-- Blanks and controls at the ends, and tabs and line ends anywhere, do not count. -/
def clean (s : List Char) : List Char :=
  let bare := (s.dropWhile (·.toNat ≤ 0x20)).reverse.dropWhile (·.toNat ≤ 0x20) |>.reverse
  bare.filter fun c => !(c == '\t' || c == '\n' || c == '\r')

structure Tail where
  path : List Char
  query : Option (List Char)
  fragment : Option (List Char)

/-- The text behind the mark in front of it. -/
def behindMark (part : Part) (s : List Char) : Option (List Char) :=
  match s with
  | [] => none
  | _ :: rest => some (Percent.encode part rest)

/-- Under schemes with rules for paths, backslashes are slashes. -/
def readTail (scheme : Scheme) (s : List Char) : Tail :=
  let (front, fragment) := cutAt (· == '#') s
  let (path, query) := cutAt (· == '?') front
  let path := if scheme.isSpecial then path.map fun c => if c = '\\' then '/' else c else path
  { path := Path.settle (Percent.encode .path path)
    query := behindMark (if scheme.isSpecial then .specialQuery else .query) query
    fragment := behindMark .fragment fragment }

/-- The address whose authority begins a text. -/
def readPlace? (scheme : Scheme) (s : List Char) : Option Url := do
  let endsAuthority := fun c => c == '/' || c == '?' || c == '#' || scheme.isSpecial && c == '\\'
  let (authority, tail) := cutAt endsAuthority s
  let authority ← Authority.read? scheme authority
  let { path, query, fragment } := readTail scheme tail
  pure { scheme, authority, path, query, fragment }

/-- An absolute address of one of the web schemes. -/
def read? (s : List Char) : Option Url := do
  let (scheme, rest) ← Scheme.split? (clean s)
  if scheme.isWeb then readPlace? scheme (rest.dropWhile isSlash) else none

/-- The address of a file at a host. Hosts that mean the place itself are none, and so is a drive
where the host should stand; a path that begins with a drive needs no host. -/
def readFile? (s : List Char) : Option Url :=
  match s with
  | a :: b :: rest => do
    let (host, tail) := cutAt (fun c => isSlash c || c == '?' || c == '#') rest
    let name ← Host.read? host
    let { path, query, fragment } := readTail .file tail
    let path := path.dropWhile (· == '/')
    let drive := path.takeWhile (· != '/')
    if isSlash a && isSlash b && !Path.isDrive host && !Path.isDrive drive &&
        name != "localhost".toList then
      some { scheme := .file, authority := { host := name }, path := '/' :: path, query, fragment }
    else none
  | _ => none

/-- The address that differs from a base by what a text says. -/
def complete? (base : Url) (s : List Char) : Option Url :=
  match s with
  | [] => some { base with fragment := none }
  | '#' :: _ => some { base with fragment := (readTail base.scheme s).fragment }
  | '?' :: _ =>
    let { query, fragment, .. } := readTail base.scheme s
    some { base with query, fragment }
  | '/' :: '/' :: rest => readPlace? base.scheme rest
  | c :: rest =>
    if isSlash c && rest.head?.any isSlash then
      readPlace? base.scheme (rest.dropWhile isSlash)
    else
      let full := if isSlash c then s else Path.directory base.path ++ s
      let { path, query, fragment } := readTail base.scheme full
      some { base with path, query, fragment }

/-- What a reference found at an address leads to. -/
inductive Lead where
  | web (url : Url)
  /-- An address over which no request is made. -/
  | foreign (address : List Char)
  deriving DecidableEq, Repr

namespace Lead

/-- The lead to an address; none if no request could be made out for it. -/
def ofUrl? (u : Url) : Option Lead :=
  if !u.isRequestable then none
  else if u.scheme.isWeb then some (.web { u with fragment := none })
  else some (.foreign u.chars)

/-- The lead to an address without an authority: it counts if it can pass for one as a whole. -/
def ofPlain? (scheme : Scheme) (s : List Char) : Option Lead :=
  let address := scheme.name ++ ':' :: Percent.encode .plain s
  if Authority.isRequestable address then some (.foreign address) else none

end Lead

/-- What a reference found at an address leads to, if it leads anywhere. Under the scheme of the
base an address is complete only with two slashes. -/
def follow? (base : Url) (reference : List Char) : Option Lead :=
  let s := clean reference
  match Scheme.split? s with
  | none => (base.complete? s).bind Lead.ofUrl?
  | some (scheme, rest) =>
    if scheme = .file then (readFile? rest).bind Lead.ofUrl?
    else if scheme.isSpecial then
      if scheme = base.scheme && (rest.takeWhile isSlash).length < 2 then
        (base.complete? rest).bind Lead.ofUrl?
      else (readPlace? scheme (rest.dropWhile isSlash)).bind Lead.ofUrl?
    else
      match rest with
      | '/' :: '/' :: rest => (readPlace? scheme rest).bind Lead.ofUrl?
      | _ => Lead.ofPlain? scheme rest

end Url
end WarmupGate.Net
