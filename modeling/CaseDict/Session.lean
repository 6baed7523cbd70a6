import CaseDict.Reader
/-! # Sessions

A session keeps a workspace and an input mode between reads. Texts are read into dictionaries of the
workspace, statement by statement or as a whole, and arguments, values and texts are expanded as
seen from them. -/

namespace CaseDict

structure Session where
  setup : Setup
  mode : InputMode
  workspace : Workspace := {}

namespace Session

open Expansion Statement

/-- The session that a setup begins with. -/
def begin (setup : Setup) : Session := { setup, mode := setup.settings.mode }

/-- What an operation gives: its result and the events it reports. -/
abbrev Report (α : Type) := Except Failure α × List Event

/-- Changes the workspace. -/
def change {α : Type} (s : Session) (act : Workspace.Change α) : Except Failure α × Session :=
  let (result, workspace) := act.run.run s.workspace
  (result, { s with workspace })

/-- Reads in a dictionary; gives also the entries that were placed in it. -/
def reading {α : Type} (s : Session) (d : Ref) (act : ReadM α) : Report (α × List Ref) × Session :=
  let (result, after) := act.run.run ⟨.stored s.workspace d [], s.mode, []⟩
  match after.scope with
  | .stored workspace _ placed _ =>
    ((result.map (·, placed), after.log), { s with workspace, mode := after.mode })
  | _ => ((result.map (·, []), after.log), { s with mode := after.mode })

/-- Reads one statement into a dictionary; gives the entries placed and the input left. -/
def statement (s : Session) (d : Ref) (depth : Int) (i : Input) :
    Report (List Ref × Input) × Session :=
  let ((result, log), s) := s.reading d (Reader.statement s.setup depth i)
  ((result.map fun ((_, rest), placed) => (placed, rest.input), log), s)

/-- Reads statements into a dictionary, up to its closing brace if it is `closed` by one; gives the
token that ended them and the input left. -/
def entries (s : Session) (d : Ref) (depth : Int) (closed : Bool) (stops : List String)
    (i : Input) : Report (Option Token × Input) × Session :=
  let closing := if closed then some (s.workspace.head d) else none
  let ((result, log), s) := s.reading d (Reader.entries s.setup depth 0 closing stops i)
  ((result.map fun ((ending, rest), _) => (ending, rest.input), log), s)

/-- Reads statements into a block under a dictionary and stores the block as a transparent
dictionary; gives the block and the token that ended it. -/
def block (s : Session) (d : Ref) (depth : Int) (stops : List String) (i : Input) :
    Report (Ref × Option Token) × Session :=
  let ((result, log), s) := s.reading d (inBlock (Reader.entries s.setup depth 0 none stops i))
  match result with
  | .error f => ((.error f, log), s)
  | .ok (((ending, _), es), _) =>
    let h : Heading := ⟨(s.workspace.head d).keyword, false, i.line, -1⟩
    let (r, ws) := s.workspace.alloc (.dictionary h { parent := some d, transparent := true })
    ((.ok (r, ending), log), { s with workspace := ws.plantAll r es })

/-- Places a stored entry in a dictionary. -/
def place (s : Session) (d e : Ref) : Report (List Ref) × Session :=
  match s.change (Workspace.place s.mode d e) with
  | (.ok (placed, log), s) => ((.ok placed, log), s)
  | (.error f, s) => ((.error f, []), s)

/-- Merges a dictionary into another. -/
def merge (s : Session) (d other : Ref) : Except Failure Unit × Session :=
  s.change (Workspace.merge d other)

/-- What expansion sees from a dictionary. -/
def context (s : Session) (d : Ref) : Context :=
  ⟨s.setup, (Scope.stored s.workspace d []).frames⟩

/-- Expands all tokens of an input. -/
def expand (s : Session) (d : Ref) (depth : Int) (i : Input) : Report (List Token) :=
  let c := s.context d
  let budget := s.setup.settings.budget depth
  (expandAll (reference c budget) (inline c budget) i).run.run []

/-- Reads one argument; gives also the input left. -/
def argument (s : Session) (d : Ref) (depth : Int) (i : Input) : Report (List Token × Input) :=
  let c := s.context d
  let budget := s.setup.settings.budget depth
  let (result, log) := (readArgument (reference c budget) (inline c budget) i).run.run []
  (result.map fun (ts, rest) => (ts, rest.input), log)

/-- The tokens that a reference stands for. -/
def resolve (s : Session) (d : Ref) (name : String) (line : Int) : Except Failure (List Token) :=
  (s.context d).surroundings.tokens name line

/-- The entry that a reference denotes, which must exist. -/
def resolveEntry (s : Session) (d : Ref) (name : String) (line : Int) : Except Failure Ref :=
  match s.workspace.scopedEntry d name with
  | some r => .ok r
  | none => .error (.unplaced (.undefinedVariable name) line)

/-- A text with its references replaced. -/
def expandText (s : Session) (d : Ref) (text : String) (line : Int) : Except Failure String :=
  (s.context d).surroundings.expandText text line

end Session

end CaseDict
