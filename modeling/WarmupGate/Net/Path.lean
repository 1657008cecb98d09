import WarmupGate.Net.Address

/-!
# Paths

A path is a list of segments with slashes in front of them. Segments of one or two dots mean the
place itself and the place above; a settled path has none of them.
-/
namespace WarmupGate.Net.Path

/-- The percent signs of an encoded point count as points in dot segments. -/
def plainDots : List Char → List Char
  | '%' :: '2' :: 'e' :: rest => '.' :: plainDots rest
  | '%' :: '2' :: 'E' :: rest => '.' :: plainDots rest
  | c :: rest => c :: plainDots rest
  | [] => []

/-- A letter that names a drive. There is no place above it. -/
def isDrive (s : List Char) : Bool :=
  match s with
  | [letter, mark] => letter.isAlpha && (mark == ':' || mark == '|')
  | _ => false

/-- The place above, newest segment first. -/
def above (done : List (List Char)) : List (List Char) :=
  if done.head?.any isDrive then done else done.drop 1

/-- Segments without dot segments, newest first in the accumulator. -/
def resolveDots : List (List Char) → List (List Char) → List (List Char)
  | done, [] => done.reverse
  | done, [s] =>
    if plainDots s = ['.', '.'] then ([] :: above done).reverse
    else if plainDots s = ['.'] then ([] :: done).reverse
    else (s :: done).reverse
  | done, s :: rest =>
    if plainDots s = ['.', '.'] then resolveDots (above done) rest
    else if plainDots s = ['.'] then resolveDots done rest
    else resolveDots (s :: done) rest

/-- The path without dot segments and with its leading slash. -/
def settle (path : List Char) : List Char :=
  '/' :: ['/'].intercalate (resolveDots [] (splitOn '/' (path.drop 1)))

def directory (path : List Char) : List Char := (path.reverse.dropWhile (· != '/')).reverse

end WarmupGate.Net.Path
