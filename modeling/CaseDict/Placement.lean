import CaseDict.Entry
import CaseDict.Log
import CaseDict.Settings
/-! # Putting entries into dictionaries

An entry whose keyword is new to a dictionary goes to its end. What becomes of a redefinition
depends on the input mode (`InputMode.placement`). Keywords are compared as texts here, so a pattern
and a plain keyword of one spelling are a redefinition too. -/

namespace CaseDict

/-- What becomes of an entry that redefines a keyword. -/
inductive Placement where
  /-- It goes to the end all the same. -/
  | append
  /-- It is merged into the entry that is there. -/
  | merge
  /-- It takes the place of all entries with its keyword. -/
  | replace
  /-- It is ignored, with or without a warning. -/
  | ignore (warns : Bool)
  /-- It is refused. -/
  | refuse
  deriving DecidableEq, Repr

/-- How a mode places a redefinition; `mergeable` says that both entries are dictionaries. -/
def InputMode.placement (mode : InputMode) (mergeable : Bool) : Placement :=
  match mode with
  | retain => .append
  | merge => if mergeable then .merge else .replace
  | overwrite => .replace
  | protect => .ignore false
  | warn => .ignore true
  | error => .refuse

/-- The failure of an entry that redefines a keyword. -/
def Heading.duplicate (h : Heading) (firstLine : Int) : Failure :=
  .unplaced (.duplicate h.keyword firstLine) h.startLine

/-- The warnings that go with an ignored redefinition. -/
def Heading.ignored (h : Heading) (warns : Bool) (firstLine : Int) : List Event :=
  if warns then [.redefinitionIgnored h.keyword h.startLine firstLine] else []

/-- The result of placing entries: those of the dictionary, those placed, and the events. -/
structure Placed where
  entries : List Entry
  placed : List Entry
  events : List Event := []

namespace Entry

/-- Merges an entry into the newest entry of its keyword. -/
def mergeNewest (e : Entry) (es : List Entry) : List Entry :=
  (changeLast (fun old => if old.keyword = e.keyword then some (old.merge e) else none) es).getD es

/-- Places an entry among those of a dictionary. -/
def place (mode : InputMode) (es : List Entry) (e : Entry) : Except Failure Placed :=
  match newest? e.keyword es with
  | none => .ok ⟨es ++ [e], [e], []⟩
  | some old =>
    match mode.placement (old.isDictionary && e.isDictionary) with
    | .append => .ok ⟨es ++ [e], [e], []⟩
    | .merge => .ok ⟨e.mergeNewest es, [old.merge e], []⟩
    | .replace => .ok ⟨without e.keyword es ++ [e], [e], []⟩
    | .ignore warns => .ok ⟨es, [], e.head.ignored warns old.head.startLine⟩
    | .refuse => .error (e.head.duplicate old.head.startLine)

/-- The entries bring no keyword that is in `known` (with the line of its first definition) or that
another of them has. -/
def checkNew (known : List (String × Int)) : List Entry → Except Failure Unit
  | [] => .ok ()
  | e :: es =>
    match known.lookup e.keyword with
    | some firstLine => .error (e.head.duplicate firstLine)
    | none => checkNew ((e.keyword, e.head.startLine) :: known) es

/-- The keywords of a dictionary, each with the line of its first definition coming first. -/
def firstLines (es : List Entry) : List (String × Int) :=
  es.map fun e => (e.keyword, e.head.startLine)

end Entry

end CaseDict
