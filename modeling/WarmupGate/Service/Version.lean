/-!
# Version texts

The name and number of the program in one line, and the same with what is known of its making.
-/
namespace WarmupGate.Service

def projectName : String := "kube-booster"
def version : String := "0.1.0"

/-- What is known of the making of a program. -/
structure Build where
  mode : String := "unknown"
  platform : String := "unknown"
  branch : String := "unknown"
  commit : String := "unknown"
  deriving DecidableEq, Repr

def versionText : String := projectName ++ " " ++ version

namespace Build

def lines (b : Build) : List String :=
  [versionText, "", "Build Information:", "Build Mode: " ++ b.mode, "Platform: " ++ b.platform, "",
    "Version Control:", "Git Branch: " ++ b.branch, "Git Commit: " ++ b.commit]

def text (b : Build) : String := "\n".intercalate b.lines

end Build

/-- A question for the version, which is answered before anything else. -/
inductive VersionQuestion where
  | short
  | long
  deriving DecidableEq, Repr

namespace VersionQuestion

def ofArgument? (arg : String) : Option VersionQuestion :=
  if arg = "--version" ∨ arg = "-V" then some .short
  else if arg = "--version-verbose" then some .long
  else none

/-- The first question among the arguments. -/
def first? (args : List String) : Option VersionQuestion := args.findSome? ofArgument?

def answer (b : Build) : VersionQuestion → List String
  | .short => [versionText]
  | .long => b.lines

end VersionQuestion
end WarmupGate.Service
