import WarmupGate.Service.Version
import WarmupGate.Text.Ranges

/-!
# Build stamps

What the build hands on to the program: its name, number, mode and platform, and the branch and
commit as the version control tells them. Whatever is not known is called unknown.
-/
namespace WarmupGate.Service

/-- What a program printed and how it ended. -/
structure Printed where
  output : ByteArray
  exitCode : Int := 0

structure BuildFacts where
  profile : Option String := none
  target : Option String := none
  version : Option String := none
  branch : Option Printed := none
  commit : Option Printed := none

namespace Stamp

def unknown : String := "unknown"

/-- The text that a program printed, without blanks around it. A failure, a text that is not UTF-8
and an empty one tell nothing. -/
def told (p? : Option Printed) : String :=
  let text? := do
    let p ← p?
    guard (p.exitCode = 0)
    let s ← String.fromUTF8? p.output
    let trimmed := Text.trim s.toList
    guard (trimmed ≠ [])
    pure (String.ofList trimmed)
  text?.getD unknown

/-- The values that are handed on, under their names. -/
def values (f : BuildFacts) : List (String × String) :=
  [("PROJECT_NAME", projectName), ("VERSION", f.version.getD "0.0.0"),
    ("GIT_BRANCH", told f.branch), ("GIT_COMMIT", told f.commit),
    ("BUILD_MODE", f.profile.getD unknown), ("TARGET_TRIPLE", f.target.getD unknown)]

/-- What is printed: when the build has to be done again, and the values. -/
def printed (f : BuildFacts) : String :=
  let triggers := ["build.rs", ".git/HEAD"].map ("cargo:rerun-if-changed=" ++ · ++ "\n")
  let assignments :=
    (values f).map fun (name, value) =>
      "cargo:rustc-env=KUBE_BOOSTER_" ++ name ++ "=" ++ value ++ "\n"
  String.join (triggers ++ assignments)

end Stamp
end WarmupGate.Service
