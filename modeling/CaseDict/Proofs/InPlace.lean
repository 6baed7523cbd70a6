import CaseDict.Reader
/-! # Reading in place

A reader that keeps all that is read in one workspace. A dictionary that begins is stored at once,
under the dictionary it is in, and filled while its statements are read; a block is stored as a
transparent dictionary, and its members go to the dictionary it is for; what references denote is
cloned. So here it matters which entries are one and the same, and which dictionary is around
which. -/

namespace CaseDict

/-- What changes while statements are read in place. -/
structure Site where
  workspace : Workspace
  /-- The dictionary or block into which statements are read. -/
  dictionary : Ref
  mode : InputMode
  log : List Event := []

namespace InPlace

open Expansion Statement

/-- Reading statements changes the site also if it fails. -/
abbrev SiteM := ExceptT Failure (StateM Site)

/-! ### Reading in other dictionaries -/

/-- Expands in the dictionaries around. -/
def expanding {α : Type} (setup : Setup) (act : Context → ExpandM α) : SiteM α :=
  ExceptT.mk fun s =>
    let frames := (Scope.stored s.workspace s.dictionary []).frames
    let (result, log) := (act ⟨setup, frames⟩).run.run s.log
    (result, { s with log })

/-- Changes the workspace. -/
def change {α : Type} (act : Workspace.Change α) : SiteM α :=
  ExceptT.mk fun s =>
    let (result, workspace) := act.run.run s.workspace
    (result, { s with workspace })

/-- Stores a new entry. -/
def store (n : Node) : SiteM Ref :=
  change do
    let (r, ws) := (← get).alloc n
    set ws
    return r

/-- Gives an entry another heading. -/
def setHead (r : Ref) (h : Heading) : SiteM Unit := change (modify (·.update r (·.withHead h)))

/-- A copy of an entry, under another keyword if one is given. -/
def clone (r : Ref) (keyword : Option String := none) : SiteM Ref :=
  change do
    let (copy, ws) ← ((← get).clone r keyword : Except Failure (Ref × Workspace))
    set ws
    return copy

/-- Reads in a new dictionary under the one that is read; returns it too. -/
def inside {α : Type} (h : Heading) (transparent : Bool) (act : SiteM α) : SiteM (α × Ref) := do
  let outer := (← get).dictionary
  let r ← store (.dictionary h { parent := some outer, transparent })
  modify fun s => { s with dictionary := r }
  let a ← act
  modify fun s => { s with dictionary := outer }
  return (a, r)

/-- Reads in a block that begins at a line; returns also the members of the block. -/
def inBlock {α : Type} (line : Int) (act : SiteM α) : SiteM (α × List Ref) := do
  let s ← get
  let (a, block) ← inside ⟨(s.workspace.head s.dictionary).keyword, false, line, -1⟩ true act
  return (a, (← get).workspace.members block)

/-! ### Placing -/

/-- Places an entry in the dictionary; returns what was placed. -/
def place (e : Ref) : SiteM (List Ref) := do
  let s ← get
  let (placed, events) ← change (Workspace.place s.mode s.dictionary e)
  modify fun s => { s with log := s.log ++ events }
  return placed

def placeEach : List Ref → SiteM (List Ref)
  | [] => return []
  | e :: es => do return (← place e) ++ (← placeEach es)

/-- Places the entries that a statement brings. If redefinitions are errors, all entries are looked
at before the first is placed. -/
def placeAll (es : List Ref) : SiteM (List Ref) := do
  let s ← get
  if s.mode = .error then
    let trees := (s.workspace.members s.dictionary).map s.workspace.tree
    Entry.checkNew (Entry.firstLines trees) (es.map s.workspace.tree)
  placeEach es

/-! ### Reading -/

/-- Runs a directive in place of a keyword, at a level of nesting and before an input; returns the
entries it brings. -/
abbrev DirectiveRunner := Nat → Token → (i : Input) → SiteM (Taken (List Ref) i)

/-- The stored entry that a reference denotes. -/
def find? (name : String) : SiteM (Option Ref) := do
  let s ← get
  return s.workspace.scopedEntry s.dictionary name

/-- The stored dictionary that a reference denotes, if it denotes one. -/
def findDictionary? (name : String) : SiteM (Option Ref) := do
  let found ← find? name
  return found.filter (← get).workspace.isDictionary

/-- Copies of the entries of the dictionary that the reference `t` denotes, in place of a keyword.
The terminator may be left out. -/
def splice (name : String) (t : Token) (i : Input) : SiteM (Taken (List Ref) i) := do
  match ← find? name with
  | none => throw (.unplaced (.undefinedVariable name) t.line)
  | some target =>
    match (← get).workspace.node target with
    | .primitive .. => throw (.inText (.splicedPrimitive name) t.line i.name)
    | .dictionary _ inside =>
      let rest : i.Rest := match ← i.next with
        | some (⟨.terminator, _⟩, rest) => rest.toRest
        | _ => i.unread
      return (← inside.members.mapM (clone ·), rest)

/-- A copy under the heading `h` of the dictionary `target` that the reference `t` denotes. The
copied keyword keeps its being a pattern or not. -/
def copyDictionary (h : Heading) (name : String) (t : Token) (target : Ref) (i : Input) :
    SiteM (Taken Ref i) := do
  let (endLine, rest) : Taken Int i ← match ← i.next with
    | none => pure (t.line, i.unread)
    | some (following, rest) =>
      match following.symbol with
      | .terminator => pure (following.line, rest.toRest)
      | .closer b => throw (.inText (.unopened b) following.line i.name)
      | _ => throw (.inText (.dictionaryAmongTokens name) t.line i.name)
  let copy ← clone target (some h.keyword)
  let own := (← get).workspace.head copy
  setHead copy { own with startLine := h.startLine, endLine }
  return (copy, rest)

section Reading

variable (setup : Setup) (budget : Nat) (run : DirectiveRunner)

mutual

/-- Reads statements up to the end of the input, the brace that closes the dictionary with the
heading `closing`, or a directive that is among `stops`; returns the token that ended them. -/
def readEntries (nesting : Nat) (closing : Option Heading) (stops : List String) (i : Input) :
    SiteM (Taken (Option Token) i) := do
  match ← i.next with
  | none =>
    match closing with
    | some h => throw (.inText (.unclosedDictionary h.keyword) h.startLine i.name)
    | none => return (none, i.unread)
  | some (t, rest) =>
    if t.symbol = .closer .brace then
      if closing.isSome then return (some t, rest.toRest)
      else throw (.inText .strayBrace t.line i.name)
    else if t.symbol = .terminator then
      let (ending, more) ← readEntries nesting closing stops rest.input
      return (ending, (rest.onward more).toRest)
    else if t.symbol.isDirectiveIn stops then return (some t, rest.toRest)
    else
      let (_, more) ← readStatement nesting t rest.input
      let (ending, last) ← readEntries nesting closing stops (rest.onward more).input
      return (ending, ((rest.onward more).onward last).toRest)
termination_by (i.size, 0)
decreasing_by all_goals exact Prod.Lex.left _ _ (Input.Less.lt _)

/-- Reads the statement that begins with `t` and places what it brings. Errors get the name of the
text, if they have none. -/
def readStatement (nesting : Nat) (t : Token) (i : Input) : SiteM (Taken (List Ref) i) :=
  ExceptT.adapt (Failure.within i.name) do
    match t.symbol with
    | .directive _ =>
      let (es, rest) ← run nesting t i
      return (← placeAll es, rest)
    | .reference name =>
      let (es, rest) ← splice name t i
      return (← placeAll es, rest)
    | .word s =>
      let (e, rest) ← readEntry nesting ⟨s, false, t.line, -1⟩ i
      return (← place e, rest)
    | .quoted s =>
      let (e, rest) ← readEntry nesting ⟨s, true, t.line, -1⟩ i
      return (← place e, rest)
    | _ => throw (.inText (.keywordExpected t.text) t.line i.name)
termination_by (i.size, 2)
decreasing_by all_goals exact Prod.Lex.right _ (by decide)

/-- Reads the rest of an entry with the heading `h`. -/
def readEntry (nesting : Nat) (h : Heading) (i : Input) : SiteM (Taken Ref i) := do
  match ← i.next with
  | none =>
    let h ← ({ h with endLine := h.startLine } : Heading).checked
    return (← store (.primitive h []), i.unread)
  | some (⟨.opener .brace, _⟩, rest) =>
    if setup.settings.maxNesting ≤ nesting then
      throw (.inText (.nestedTooDeep setup.settings.maxNesting) h.startLine i.name)
    let h ← h.checked
    let ((ending, more), r) ← inside h false (readEntries (nesting + 1) (some h) [] rest.input)
    setHead r { h with endLine := (ending.map (·.line)).getD (-1) }
    return (r, (rest.onward more).toRest)
  | some (⟨.reference name, line⟩, rest) =>
    match ← findDictionary? name with
    | some target =>
      let (e, more) ← copyDictionary h name ⟨.reference name, line⟩ target rest.input
      return (e, (rest.onward more).toRest)
    | none => readPrimitive
  | _ => readPrimitive
termination_by (i.size, 1)
decreasing_by exact Prod.Lex.left _ _ (Input.Less.lt _)
where
  /-- Reads an entry whose value is a list of tokens. -/
  readPrimitive : SiteM (Taken Ref i) := do
    let ((ts, endLine), rest) ←
      expanding setup fun c => readValue (reference c budget) (inline c budget) [] i
    let h ← ({ h with endLine } : Heading).checked
    return (← store (.primitive h ts), rest)

end

end Reading

/-! ### Directives in place of keywords -/

/-- Reads a conditional whose condition is `taken`. The statements of a branch are read by
`entries`. -/
def conditional (entries : List String → (i : Input) → SiteM (Taken (Option Token) i))
    (own : Directive) (t : Token) (taken : Bool) (i : Input) : SiteM (Taken (List Ref) i) := do
  if taken then
    let ((ending, rest), es) ← inBlock i.line (entries branchEnds i)
    match ending with
    | none => throw (conditionalUnclosed own t i)
    | some found =>
      if isOtherwise found then
        let (_, more) ← skipBranch own t false 0 rest.input
        return (es, rest.onward more)
      else return (es, rest)
  else
    let (ending, rest) ← skipBranch own t true 0 i
    if isOtherwise ending then
      let ((ending, more), es) ← inBlock rest.input.line (entries branchEnds rest.input)
      match ending with
      | none => throw (conditionalUnclosed own t i)
      | some found =>
        if isOtherwise found then throw (misuse t i (.secondElse found.line))
        else return (es, rest.onward more)
    else return ([], rest)

/-- Removes the entries that the tokens name. A malformed expression ends the removals; those before
it are then done in the innermost dictionary or block only. -/
def remove (t : Token) (i : Input) (names : List Token) : SiteM Unit := do
  let wanted := Removal.ofTokens names
  if wanted.isEmpty then throw (misuse t i .keywordsExpected)
  let d := (← get).dictionary
  match Removal.readAll wanted with
  | (what, none) =>
    change (modify fun ws => (ws.through d).foldl (fun ws d => ws.removeAll d what) ws)
  | (what, some f) =>
    change (modify (·.removeAll d what))
    throw f

/-- Reads the name of an input mode and changes to it; `default` is the mode of the settings. -/
def changeMode (setup : Setup) (t : Token) (i : Input) : SiteM (Taken (List Ref) i) := do
  let (argument, rest) ← i.expect "#inputMode mode"
  match argument.symbol with
  | .word s =>
    let mode ←
      if s = "default" then pure setup.settings.mode
      else match InputMode.ofName? s with
        | some mode => pure mode
        | none => throw (misuse t i (.unknownMode s))
    modify fun s => { s with mode }
    return ([], rest.toRest)
  | s => throw (misuse t i (.modeExpected s.text))

/-- Runs a directive in place of a keyword, in which expansion may nest `budget` deep. -/
def runDirective (setup : Setup) : Nat → DirectiveRunner
  | 0, _, t, i => throw (Context.tooDeep ⟨setup, []⟩ t i.name)
  | budget + 1, nesting, t, i => do
    let entries (closing : Option Heading) (stops : List String) (i : Input) :=
      readEntries setup budget (runDirective setup budget) nesting closing stops i
    let argument (i : Input) :=
      expanding setup fun c => readArgument (reference c budget) (inline c budget) i
    match ← setup.registry.get t.symbol.value t.line (some i.name) with
    | .includeFile optional =>
      let (found, rest) ← expanding setup fun c => locate c optional t i
      match found with
      | none => return ([], rest)
      | some p =>
        let file ← expanding setup fun c => openFile c p
        let (_, es) ← inBlock file.line (entries none [] file)
        return (es, rest)
    | .ifEqual =>
      let (left, first) ← argument i
      let (right, second) ← argument first.input
      let rest := first.onward second
      let taken := left.map Token.text == right.map Token.text
      let (es, more) ← conditional (entries none) .ifEqual t taken rest.input
      return (es, rest.onward more)
    | .ifTrue =>
      let (condition, rest) ← argument i
      match Switch.ofTokens condition with
      | none => throw (misuse t i (.notSwitch (Token.spaced condition)))
      | some taken =>
        let (es, more) ← conditional (entries none) .ifTrue t taken rest.input
        return (es, rest.onward more)
    | .otherwise => throw (misuse t i .loneElse)
    | .endIf => throw (misuse t i .loneEndif)
    | .remove =>
      let (names, rest) ← argument i
      remove t i names
      return ([], rest)
    | .inputMode => changeMode setup t i
    | .calculate | .negate | .blank => throw (misuse t i .notAsKeyword)

/-- Reads all statements of an input. -/
def entries (setup : Setup) (i : Input) : SiteM (Taken (Option Token) i) :=
  let budget := setup.settings.budget 0
  readEntries setup budget (runDirective setup budget) 0 none [] i

/-- The site at which an input begins to be read, where the first entry is for it. -/
def start (setup : Setup) (i : Input) : Site :=
  let (root, workspace) := ({} : Workspace).alloc (.dictionary ⟨i.name, false, 1, -1⟩ {})
  ⟨workspace, root, setup.settings.mode, []⟩

/-- The dictionary that all statements of an input make, in a workspace of its own. -/
def read (setup : Setup) (i : Input) : Except Failure (Ref × Workspace) × List Event :=
  let root := (start setup i).dictionary
  let (result, s) := (entries setup i).run.run (start setup i)
  let made := result.map fun (_, rest) =>
    (root, s.workspace.update root (·.withHead ⟨i.name, false, 1, rest.input.line⟩))
  (made, s.log)

end InPlace

end CaseDict
