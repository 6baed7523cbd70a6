/-! # Settings of a read

The policy for a keyword that is defined again in one dictionary, the limits on expansion and
nesting, where includes are searched, and the environment that references fall back on. -/

namespace CaseDict

/-- What happens to a keyword that its dictionary already holds. -/
inductive InputMode where
  /-- Both entries are kept; the newer shadows the older. -/
  | retain
  /-- Dictionaries are merged, other entries replaced. -/
  | merge
  /-- The older entries are removed. -/
  | overwrite
  /-- The newer entry is ignored. -/
  | protect
  /-- The newer entry is ignored with a warning. -/
  | warn
  /-- The redefinition is an error. -/
  | error
  deriving DecidableEq, Repr

namespace InputMode

def all : List InputMode := [retain, merge, overwrite, protect, warn, error]

def name : InputMode → String
  | retain => "retain"
  | merge => "merge"
  | overwrite => "overwrite"
  | protect => "protect"
  | warn => "warn"
  | error => "error"

/-- The mode of that name, in letters of either case. -/
def ofName? (s : String) : Option InputMode :=
  let lower := String.ofList (s.toList.map Char.toLower)
  all.find? fun m => m.name == lower

/-- The message for a name that is no mode's. -/
def unknownMessage (quoted : String) : String :=
  "unknown input mode " ++ quoted ++ " (expected one of: " ++ ", ".intercalate (all.map name) ++ ")"

end InputMode

/-- Options of a read. The environment is empty when references may not fall back on it. -/
structure Settings where
  mode : InputMode := .retain
  maxExpansion : Int := 64
  maxNesting : Int := 64
  includePaths : List String := []
  environment : List (String × String) := []

end CaseDict
