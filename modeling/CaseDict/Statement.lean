import CaseDict.Expansion
import CaseDict.Scope
/-! # Statements

A dictionary is written as statements: a keyword with a value, a keyword with a dictionary between
braces, a keyword with a reference to a dictionary (`keyword $name;`, a copy of it), a reference in
place of a keyword (`$name;`, copies of the entries of a dictionary), or a directive in place of a
keyword. `readEntries` reads statements up to the end of a dictionary, `readStatement` one of them.

What a statement brings is placed in the scope when the whole statement has been read, so that a
statement that fails has placed nothing. -/

namespace CaseDict

/-- What changes while statements are read. -/
structure ReadState where
  scope : Scope
  mode : InputMode
  log : List Event := []

/-- Reading statements changes the state also if it fails. -/
abbrev ReadM := ExceptT Failure (StateM ReadState)

namespace Statement

open Expansion

/-! ### Reading in other scopes -/

/-- Expands in the dictionaries around. -/
def expanding {α : Type} (setup : Setup) (act : Context → ExpandM α) : ReadM α :=
  ExceptT.mk fun s =>
    let (result, log) := (act ⟨setup, s.scope.frames⟩).run.run s.log
    (result, { s with log })

/-- Reads in a dictionary that begins here; returns also its entries. -/
def inDictionary {α : Type} (act : ReadM α) : ReadM (α × List Entry) :=
  ExceptT.mk fun s =>
    let (result, inside) := act.run.run { s with scope := s.scope.inner }
    (result.map (·, inside.scope.entries), { inside with scope := s.scope })

/-- Reads in a block that begins here; returns also the entries of the block. -/
def inBlock {α : Type} (act : ReadM α) : ReadM (α × List Entry) :=
  ExceptT.mk fun s =>
    let (result, inside) := act.run.run { s with scope := .staged [] s.scope }
    match inside.scope with
    | .staged es below => (result.map (·, es), { inside with scope := below })
    | scope => (result.map (·, []), { inside with scope })

/-! ### Placing -/

/-- Places an entry in the scope; returns what was placed. -/
def place (e : Entry) : ReadM (List Entry) :=
  ExceptT.mk fun s =>
    let (result, scope) := s.scope.place s.mode e
    match result with
    | .ok (placed, events) => (.ok placed, { s with scope, log := s.log ++ events })
    | .error f => (.error f, { s with scope })

def placeEach : List Entry → ReadM (List Entry)
  | [] => return []
  | e :: es => do return (← place e) ++ (← placeEach es)

/-- Places the entries that a statement brings. If redefinitions are errors, all entries are looked
at before the first is placed. -/
def placeAll (es : List Entry) : ReadM (List Entry) := do
  let s ← get
  if s.mode = .error then Entry.checkNew (Entry.firstLines s.scope.entries) es
  placeEach es

/-! ### Reading -/

/-- Runs a directive in place of a keyword, at a level of nesting and before an input; returns the
entries it brings. -/
abbrev DirectiveRunner := Nat → Token → (i : Input) → ReadM (Taken (List Entry) i)

section Reading

variable (setup : Setup) (budget : Nat) (run : DirectiveRunner)

/-- Reads the value of an entry. -/
def readTokens (i : Input) : ReadM (Taken (List Token × Int) i) :=
  expanding setup fun c => readValue (reference c budget) (inline c budget) [] i

/-- The entry that a reference denotes. -/
def surroundings : ReadM Surroundings := return Context.surroundings ⟨setup, (← get).scope.frames⟩

/-- Copies of the entries of the dictionary that the reference `t` denotes, in place of a keyword.
The terminator may be left out. -/
def splice (name : String) (t : Token) (i : Input) : ReadM (Taken (List Entry) i) := do
  match ← (← surroundings setup).entry name t.line with
  | .primitive .. => throw (.inText (.splicedPrimitive name) t.line i.name)
  | .dictionary _ es =>
    let rest : i.Rest := match ← i.next with
      | some (⟨.terminator, _⟩, rest) => rest.toRest
      | _ => i.unread
    return (← es.mapM fun e => e.copy, rest)

/-- A copy under the heading `h` of the dictionary that the reference `t` denotes. The copied
keyword keeps its being a pattern or not. -/
def copyDictionary (h : Heading) (name : String) (t : Token) (target : Heading) (es : List Entry)
    (i : Input) : ReadM (Taken Entry i) := do
  let (endLine, rest) : Taken Int i ← match ← i.next with
    | none => pure (t.line, i.unread)
    | some (following, rest) =>
      match following.symbol with
      | .terminator => pure (following.line, rest.toRest)
      | .closer b => throw (.inText (.unopened b) following.line i.name)
      | _ => throw (.inText (.dictionaryAmongTokens name) t.line i.name)
  let copy ← (Entry.dictionary { target with keyword := h.keyword } es).copy
  return (copy.withHead { copy.head with startLine := h.startLine, endLine }, rest)

mutual

/-- Reads statements up to the end of the input, the brace that closes the dictionary with the
heading `closing`, or a directive that is among `stops`; returns the token that ended them. -/
def readEntries (nesting : Nat) (closing : Option Heading) (stops : List String) (i : Input) :
    ReadM (Taken (Option Token) i) := do
  match ← i.next with
  | none =>
    match closing with
    | some h => throw (.inText (.unclosedDictionary h.keyword) h.startLine i.name)
    | none => return (none, i.unread)
  | some (t, rest) =>
    if t.symbol = .closer .brace then
      if closing.isSome then return (some t, rest.toRest)
      else throw (.inText .strayBrace t.line i.name)
    else if t.symbol = .terminator then
      let (ending, more) ← readEntries nesting closing stops rest.input
      return (ending, (rest.onward more).toRest)
    else if t.symbol.isDirectiveIn stops then return (some t, rest.toRest)
    else
      let (_, more) ← readStatement nesting t rest.input
      let (ending, last) ← readEntries nesting closing stops (rest.onward more).input
      return (ending, ((rest.onward more).onward last).toRest)
termination_by (i.size, 0)
decreasing_by all_goals exact Prod.Lex.left _ _ (Input.Less.lt _)

/-- Reads the statement that begins with `t` and places what it brings. Errors get the name of the
text, if they have none. -/
def readStatement (nesting : Nat) (t : Token) (i : Input) : ReadM (Taken (List Entry) i) :=
  ExceptT.adapt (Failure.within i.name) do
    match t.symbol with
    | .directive _ =>
      let (es, rest) ← run nesting t i
      return (← placeAll es, rest)
    | .reference name =>
      let (es, rest) ← splice setup name t i
      return (← placeAll es, rest)
    | .word s =>
      let (e, rest) ← readEntry nesting ⟨s, false, t.line, -1⟩ i
      return (← place e, rest)
    | .quoted s =>
      let (e, rest) ← readEntry nesting ⟨s, true, t.line, -1⟩ i
      return (← place e, rest)
    | _ => throw (.inText (.keywordExpected t.text) t.line i.name)
termination_by (i.size, 2)
decreasing_by all_goals exact Prod.Lex.right _ (by decide)

/-- Reads the rest of an entry with the heading `h`. -/
def readEntry (nesting : Nat) (h : Heading) (i : Input) : ReadM (Taken Entry i) := do
  match ← i.next with
  | none => return (.primitive (← Heading.checked { h with endLine := h.startLine }) [], i.unread)
  | some (⟨.opener .brace, _⟩, rest) =>
    if setup.settings.maxNesting ≤ nesting then
      throw (.inText (.nestedTooDeep setup.settings.maxNesting) h.startLine i.name)
    let h ← h.checked
    let ((ending, more), es) ← inDictionary (readEntries (nesting + 1) (some h) [] rest.input)
    let endLine := (ending.map (·.line)).getD (-1)
    return (.dictionary { h with endLine } es, (rest.onward more).toRest)
  | some (⟨.reference name, line⟩, rest) =>
    match (← surroundings setup).find? name with
    | some (.dictionary target es) =>
      let (e, more) ← copyDictionary h name ⟨.reference name, line⟩ target es rest.input
      return (e, (rest.onward more).toRest)
    | _ => readPrimitive
  | _ => readPrimitive
termination_by (i.size, 1)
decreasing_by exact Prod.Lex.left _ _ (Input.Less.lt _)
where
  /-- Reads an entry whose value is a list of tokens. -/
  readPrimitive : ReadM (Taken Entry i) := do
    let ((ts, endLine), rest) ← readTokens setup budget i
    return (.primitive (← Heading.checked { h with endLine }) ts, rest)

end

end Reading

end Statement

end CaseDict
