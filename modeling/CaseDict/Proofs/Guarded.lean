import CaseDict.Proofs.Watched
/-! # Reading under guard

A reader that stops where it comes to something that is guarded against: a statement, a text that is
opened, an expression, a removal, or entries that are copied. What a read comes to is said by whether
it is stopped there (`Setup.ComesTo`). -/

namespace CaseDict

open Expansion Statement

/-- What a read may come to. -/
inductive Encounter where
  /-- A statement that begins with the token. -/
  | statement (t : Token)
  /-- A reference in a value that stands for the text that the environment has for its name. -/
  | variable (name text : String)
  /-- A path at which a file is looked for. -/
  | lookup (p : Path)
  /-- A file that is included in place of a keyword. -/
  | file (p : Path)
  /-- A file that is included in a value. -/
  | fragment (p : Path)
  /-- An expression that is computed. -/
  | expression (text : String)
  /-- A removal of the entries that the tokens name. -/
  | removal (names : List Token)
  /-- Entries that are copied into a dictionary at a level of nesting. -/
  | copies (nesting : Nat) (es : List Entry)

/-- What a read is guarded against. -/
abbrev Guard := Encounter → Bool

namespace Guarded

variable (guard : Guard)

/-- Stops a read that comes to what it is guarded against. -/
def meet (e : Encounter) : Except Failure Unit :=
  if guard e then .error Watch.stopped else .ok ()

/-! ### Expansion -/

/-- `Expansion.calculate` under guard. -/
def calculate (c : Context) (t : Token) (i : Input) : ExpandM (Taken (List Token) i) := do
  let (argument, rest) ← i.expect "#calc expression"
  let source ← match argument.symbol with
    | .quoted s | .word s => pure s
    | .number n => pure n.text
    | s => throw (misuse t i (.expressionExpected s.text))
  let expression ← c.surroundings.expandText source t.line
  meet guard (.expression expression)
  match Calc.calculate expression with
  | .error why => throw (misuse t i (.calculation why))
  | .ok (.number n) =>
    if n.writable then return ([⟨.number n, t.line⟩], rest.toRest) else throw .numeralTooLong
  | .ok s => return ([⟨s, t.line⟩], rest.toRest)

/-- `Expansion.candidates` under guard. -/
def candidates (c : Context) (source : String) (name : Path) : ExpandM (List Path) := do
  if name.isAbsolute then return [name]
  let files := c.setup.files
  let source := Path.ofString source
  report (.consulted source.text)
  meet guard (.lookup source)
  let beside := if ← files.isFile source then source.parent else Path.ofString files.current
  return (beside :: c.setup.settings.includePaths.map Path.ofString).map (·.join name)

/-- `Expansion.firstFile` under guard. -/
def firstFile (c : Context) : List Path → ExpandM (Option Path)
  | [] => return none
  | p :: ps => do
    report (.consulted p.text)
    meet guard (.lookup p)
    if ← c.setup.files.isFile p then return some p else firstFile c ps

/-- `Expansion.locate` under guard. -/
def locate (c : Context) (optional : Bool) (t : Token) (i : Input) :
    ExpandM (Taken (Option Path) i) := do
  let own := (Directive.includeFile optional).name
  let (argument, rest) ← i.expect ("#" ++ own ++ " file name")
  let raw ← match argument.symbol with
    | .quoted s | .word s => pure s
    | s => throw (misuse t i (.fileNameExpected s.text))
  let name ← c.surroundings.expandText raw t.line
  let places ← candidates guard c i.name (Path.ofString name)
  match ← firstFile guard c places with
  | some p => return (some p, rest.toRest)
  | none =>
    if optional then return (none, rest.toRest)
    else do
      let searched := places.map Path.text
      report (.includeMissing name searched)
      throw (.inText (.includeMissing name searched) t.line i.name)

/-- Meets the environment's text for a name that denotes no entry. -/
def meetVariable (c : Context) (name : String) : Except Failure Unit :=
  match c.surroundings.find? name, c.surroundings.environmentText? name with
  | none, some text => meet guard (.variable name text)
  | _, _ => .ok ()

mutual

/-- `Expansion.reference` under guard. -/
def reference (c : Context) : Nat → Token → String → ExpandM (List Token)
  | 0, t, source => throw (c.tooDeep t source)
  | n + 1, t, _ => do
    let name := t.symbol.value
    meetVariable guard c name
    let ts ← c.surroundings.tokens name t.line
    if ts.any (·.symbol.isMacro) then
      expandAll (reference c n) (inline c n) (.ofTokens (Surroundings.textName name) ts)
    else return ts

/-- `Expansion.inline` under guard. -/
def inline (c : Context) : Nat → Token → (i : Input) → ExpandM (Taken (List Token) i)
  | 0, t, i => throw (c.tooDeep t i.name)
  | n + 1, t, i => do
    match ← c.setup.registry.get t.symbol.value t.line (some i.name) with
    | .calculate => calculate guard c t i
    | .negate =>
      let (argument, rest) ← readArgument (reference c n) (inline c n) i
      match argument with
      | [⟨.number x, _⟩] => return ([⟨.number x.negate, t.line⟩], rest)
      | _ => throw (misuse t i (.numberExpected (Token.spaced argument)))
    | .includeFile optional =>
      let (found, rest) ← locate guard c optional t i
      match found with
      | none => return ([], rest)
      | some p =>
        meet guard (.fragment p)
        return (← expandAll (reference c n) (inline c n) (← openFile c p), rest)
    | _ => throw (misuse t i .notInValue)

end

/-! ### Statements -/

section Statements

variable (setup : Setup) (budget : Nat) (run : DirectiveRunner)

/-- `Statement.readTokens` under guard. -/
def readTokens (i : Input) : ReadM (Taken (List Token × Int) i) :=
  expanding setup fun c => readValue (reference guard c budget) (inline guard c budget) [] i

/-- `Statement.splice` under guard. -/
def splice (nesting : Nat) (name : String) (t : Token) (i : Input) :
    ReadM (Taken (List Entry) i) := do
  match (← surroundings setup).find? name with
  | some (.dictionary _ es) => meet guard (.copies nesting es)
  | _ => pure ()
  Statement.splice setup name t i

mutual

/-- `Statement.readEntries` under guard. -/
def readEntries (nesting : Nat) (closing : Option Heading) (stops : List String) (i : Input) :
    ReadM (Taken (Option Token) i) := do
  match ← i.next with
  | none =>
    match closing with
    | some h => throw (.inText (.unclosedDictionary h.keyword) h.startLine i.name)
    | none => return (none, i.unread)
  | some (t, rest) =>
    if t.symbol = .closer .brace then
      if closing.isSome then return (some t, rest.toRest)
      else throw (.inText .strayBrace t.line i.name)
    else if t.symbol = .terminator then
      let (ending, more) ← readEntries nesting closing stops rest.input
      return (ending, (rest.onward more).toRest)
    else if t.symbol.isDirectiveIn stops then return (some t, rest.toRest)
    else
      let (_, more) ← readStatement nesting t rest.input
      let (ending, last) ← readEntries nesting closing stops (rest.onward more).input
      return (ending, ((rest.onward more).onward last).toRest)
termination_by (i.size, 0)
decreasing_by all_goals exact Prod.Lex.left _ _ (Input.Less.lt _)

/-- `Statement.readStatement` under guard. -/
def readStatement (nesting : Nat) (t : Token) (i : Input) : ReadM (Taken (List Entry) i) :=
  ExceptT.adapt (Failure.within i.name) do
    meet guard (.statement t)
    match t.symbol with
    | .directive _ =>
      let (es, rest) ← run nesting t i
      return (← placeAll es, rest)
    | .reference name =>
      let (es, rest) ← splice guard setup nesting name t i
      return (← placeAll es, rest)
    | .word s =>
      let (e, rest) ← readEntry nesting ⟨s, false, t.line, -1⟩ i
      return (← place e, rest)
    | .quoted s =>
      let (e, rest) ← readEntry nesting ⟨s, true, t.line, -1⟩ i
      return (← place e, rest)
    | _ => throw (.inText (.keywordExpected t.text) t.line i.name)
termination_by (i.size, 2)
decreasing_by all_goals exact Prod.Lex.right _ (by decide)

/-- `Statement.readEntry` under guard. -/
def readEntry (nesting : Nat) (h : Heading) (i : Input) : ReadM (Taken Entry i) := do
  match ← i.next with
  | none => return (.primitive (← Heading.checked { h with endLine := h.startLine }) [], i.unread)
  | some (⟨.opener .brace, _⟩, rest) =>
    if setup.settings.maxNesting ≤ nesting then
      throw (.inText (.nestedTooDeep setup.settings.maxNesting) h.startLine i.name)
    let h ← h.checked
    let ((ending, more), es) ← inDictionary (readEntries (nesting + 1) (some h) [] rest.input)
    let endLine := (ending.map (·.line)).getD (-1)
    return (.dictionary { h with endLine } es, (rest.onward more).toRest)
  | some (⟨.reference name, line⟩, rest) =>
    match (← surroundings setup).find? name with
    | some (.dictionary target es) =>
      meet guard (.copies nesting [.dictionary { target with keyword := h.keyword } es])
      let (e, more) ← copyDictionary h name ⟨.reference name, line⟩ target es rest.input
      return (e, (rest.onward more).toRest)
    | _ => readPrimitive
  | _ => readPrimitive
termination_by (i.size, 1)
decreasing_by exact Prod.Lex.left _ _ (Input.Less.lt _)
where
  /-- Reads an entry whose value is a list of tokens. -/
  readPrimitive : ReadM (Taken Entry i) := do
    let ((ts, endLine), rest) ← readTokens guard setup budget i
    return (.primitive (← Heading.checked { h with endLine }) ts, rest)

end

end Statements

/-! ### Directives in place of keywords -/

variable (setup : Setup)

/-- `Statement.runDirective` under guard. -/
def runDirective : Nat → DirectiveRunner
  | 0, _, t, i => throw (Context.tooDeep ⟨setup, []⟩ t i.name)
  | budget + 1, nesting, t, i => do
    let entries (closing : Option Heading) (stops : List String) (i : Input) :=
      readEntries guard setup budget (runDirective budget) nesting closing stops i
    let argument (i : Input) :=
      expanding setup fun c => readArgument (reference guard c budget) (inline guard c budget) i
    match ← setup.registry.get t.symbol.value t.line (some i.name) with
    | .includeFile optional =>
      let (found, rest) ← expanding setup fun c => locate guard c optional t i
      match found with
      | none => return ([], rest)
      | some p =>
        meet guard (.file p)
        let file ← expanding setup fun c => openFile c p
        let (_, es) ← inBlock (entries none [] file)
        return (es, rest)
    | .ifEqual =>
      let (left, first) ← argument i
      let (right, second) ← argument first.input
      let rest := first.onward second
      let taken := left.map Token.text == right.map Token.text
      let (es, more) ← conditional (entries none) .ifEqual t taken rest.input
      return (es, rest.onward more)
    | .ifTrue =>
      let (condition, rest) ← argument i
      match Switch.ofTokens condition with
      | none => throw (misuse t i (.notSwitch (Token.spaced condition)))
      | some taken =>
        let (es, more) ← conditional (entries none) .ifTrue t taken rest.input
        return (es, rest.onward more)
    | .otherwise => throw (misuse t i .loneElse)
    | .endIf => throw (misuse t i .loneEndif)
    | .remove =>
      let (names, rest) ← argument i
      meet guard (.removal names)
      remove t i names
      return ([], rest)
    | .inputMode => changeMode setup t i
    | .calculate | .negate | .blank => throw (misuse t i .notAsKeyword)

/-- `Reader.entries` under guard, from the outermost level. -/
def entries (i : Input) : ReadM (Taken (Option Token) i) :=
  readEntries guard setup (setup.settings.budget 0) (runDirective guard setup (setup.settings.budget 0))
    0 none [] i

/-- `Reader.read` under guard. -/
def read (i : Input) : Except Failure Entry × List Event :=
  let start : ReadState := ⟨.fresh [] [], setup.settings.mode, []⟩
  let (result, s) := (entries guard setup i).run.run start
  let made := result.map fun (_, rest) =>
    .dictionary ⟨i.name, false, 1, rest.input.line⟩ s.scope.entries
  (made, s.log)

end Guarded

/-- A read of the input comes to something that is guarded against, and is stopped there. -/
def Setup.ComesTo (setup : Setup) (guard : Guard) (i : Input) : Prop :=
  (Guarded.read guard setup i).1 = .error Watch.stopped

end CaseDict
