import CaseDict.Proofs.Sharing
/-! # Reading with fuel

A reader in which nothing shows that it ends: depths are integers, the input left need not be
shorter than the input given, and every call and every turn of a loop takes a unit of fuel. A read
that runs out of fuel gives nothing at all. It also notes which references it expands. -/

namespace CaseDict

open Expansion Statement

/-- A reference that is expanded, and the dictionaries it is looked up in. References in quoted text
are not expanded: a text is put for each of them once. -/
structure Visit where
  name : String
  frames : List (Frame Entry)

/-- A computation that may fail, and may run out of fuel, and notes the references it expands. -/
abbrev FuelM (σ : Type) := ExceptT Failure (StateT (σ × List Visit) Option)

namespace Fuelled

variable {σ α β : Type}

/-- Runs a computation from a state, after the visits noted so far. -/
def run (m : FuelM σ α) (s : σ) (visits : List Visit) :
    Option (Except Failure α × σ × List Visit) := ExceptT.run m (s, visits)

/-- There is no fuel left. -/
def spent : FuelM σ α := ExceptT.mk fun _ => none

/-- A computation in which no references are expanded. -/
def plain (m : ExceptT Failure (StateM σ) α) : FuelM σ α :=
  ExceptT.mk fun (s, visits) =>
    let (result, s) := m.run.run s
    some (result, s, visits)

/-- Notes a reference that is expanded. -/
def note (v : Visit) : FuelM σ Unit :=
  ExceptT.mk fun (s, visits) => some (.ok (), s, visits ++ [v])

/-- Expands in the dictionaries around. -/
def expanding (setup : Setup) (act : Context → FuelM (List Event) α) : FuelM ReadState α :=
  ExceptT.mk fun (s, visits) =>
    (run (act ⟨setup, s.scope.frames⟩) s.log visits).map fun (result, log, visits) =>
      (result, { s with log }, visits)

/-- Runs between entering a state and leaving it. -/
def between (enter : σ → σ) (leave : σ → σ → β × σ) (act : FuelM σ α) : FuelM σ (α × β) :=
  ExceptT.mk fun (s, visits) => (run act (enter s) visits).map fun (result, t, visits) =>
    (result.map (·, (leave s t).1), (leave s t).2, visits)

section Run

variable {m : FuelM σ α} {s : σ} {visits : List Visit}

theorem run_pure (a : α) : run (pure a : FuelM σ α) s visits = some (.ok a, s, visits) := rfl

theorem run_throw (f : Failure) :
    run (throw f : FuelM σ α) s visits = some (.error f, s, visits) := rfl

theorem run_lift (r : Except Failure α) :
    run (liftM r : FuelM σ α) s visits = some (r, s, visits) := by cases r <;> rfl

theorem run_plain (m : ExceptT Failure (StateM σ) α) :
    run (plain m) s visits = some ((exec m s).1, (exec m s).2, visits) := rfl

theorem run_note (v : Visit) :
    run (note v : FuelM σ Unit) s visits = some (.ok (), s, visits ++ [v]) := rfl

theorem run_bind (m : FuelM σ α) (k : α → FuelM σ β) :
    run (m >>= k) s visits = match run m s visits with
      | none => none
      | some (.ok a, s', visits') => run (k a) s' visits'
      | some (.error f, s', visits') => some (.error f, s', visits') := by
  change (ExceptT.run m (s, visits)).bind _ = _
  unfold run
  rcases ExceptT.run m (s, visits) with _ | ⟨_ | a, s', visits'⟩ <;> rfl

theorem run_adapt (g : Failure → Failure) (m : FuelM σ α) :
    run (ExceptT.adapt g m) s visits =
      (run m s visits).map fun (result, s, visits) => (result.mapError g, s, visits) := by
  change (ExceptT.run m (s, visits)).bind _ = _
  unfold run
  rcases ExceptT.run m (s, visits) with _ | ⟨result, s', visits'⟩ <;> rfl

theorem run_expanding (setup : Setup) (act : Context → FuelM (List Event) α) (s : ReadState) :
    run (expanding setup act) s visits =
      (run (act ⟨setup, s.scope.frames⟩) s.log visits).map fun (result, log, visits) =>
        (result, { s with log }, visits) := rfl

theorem run_between (enter : σ → σ) (leave : σ → σ → β × σ) (act : FuelM σ α) :
    run (between enter leave act) s visits =
      (run act (enter s) visits).map fun (result, t, visits) =>
        (result.map (·, (leave s t).1), (leave s t).2, visits) := rfl

end Run

/-! ### Expansion -/

/-- Fails if expansion would nest too deep. -/
def checkDepth (c : Context) (depth : Int) (t : Token) (source : String) : FuelM σ Unit :=
  if c.setup.settings.maxExpansion < depth then throw (c.tooDeep t source) else pure ()

mutual

def expandToken (c : Context) : Nat → Int → Token → Input →
    FuelM (List Event) (List Token × Input)
  | 0, _, _, _ => spent
  | fuel + 1, depth, t, i =>
    match t.symbol with
    | .reference _ => do return (← reference c fuel (depth + 1) t i.name, i)
    | .directive _ => inline c fuel (depth + 1) t i
    | _ => return ([t], i)

def expandAll (c : Context) : Nat → Int → Input → FuelM (List Event) (List Token)
  | 0, _, _ => spent
  | fuel + 1, depth, i => do
    match ← i.next with
    | none => return []
    | some (t, rest) =>
      let (ts, more) ← expandToken c fuel depth t rest.input
      return ts ++ (← expandAll c fuel depth more)

def readGroup (c : Context) : Nat → Int → Opening → List Opening → Input →
    FuelM (List Event) (List Token × Input)
  | 0, _, _, _, _ => spent
  | fuel + 1, depth, o, outer, i => do
    let (t, rest) ← i.expect ("closing '" ++ o.bracket.closing ++ "'")
    let opened ← track (o :: outer) t i.name
    let (ts, more) ← expandToken c fuel depth t rest.input
    match opened with
    | [] => return (ts, more)
    | o :: outer =>
      let (us, last) ← readGroup c fuel depth o outer more
      return (ts ++ us, last)

def readArgument (c : Context) : Nat → Int → Input → FuelM (List Event) (List Token × Input)
  | 0, _, _ => spent
  | fuel + 1, depth, i => do
    let (t, rest) ← i.expect "directive argument"
    match t.symbol with
    | .terminator | .closer _ => throw (.inText (.argumentExpected t.text) t.line i.name)
    | .opener b =>
      let (ts, more) ← readGroup c fuel depth ⟨b, t.line⟩ [] rest.input
      return (t :: ts, more)
    | _ => expandToken c fuel depth t rest.input

def reference (c : Context) : Nat → Int → Token → String → FuelM (List Event) (List Token)
  | 0, _, _, _ => spent
  | fuel + 1, depth, t, source => do
    let name := t.symbol.value
    note ⟨name, c.frames⟩
    checkDepth c depth t source
    let ts ← c.surroundings.tokens name t.line
    if ts.any (·.symbol.isMacro) then
      expandAll c fuel depth (.ofTokens (Surroundings.textName name) ts)
    else return ts

def inline (c : Context) : Nat → Int → Token → Input → FuelM (List Event) (List Token × Input)
  | 0, _, _, _ => spent
  | fuel + 1, depth, t, i => do
    checkDepth c depth t i.name
    match ← c.setup.registry.get t.symbol.value t.line (some i.name) with
    | .calculate =>
      let (ts, rest) ← plain (calculate c t i)
      return (ts, rest.input)
    | .negate =>
      let (argument, rest) ← readArgument c fuel depth i
      match argument with
      | [⟨.number x, _⟩] => return ([⟨.number x.negate, t.line⟩], rest)
      | _ => throw (misuse t i (.numberExpected (Token.spaced argument)))
    | .includeFile optional =>
      let (found, rest) ← plain (locate c optional t i)
      match found with
      | none => return ([], rest.input)
      | some p => return (← expandAll c fuel depth (← plain (openFile c p)), rest.input)
    | _ => throw (misuse t i .notInValue)

end

def readValue (c : Context) : Nat → Int → List Opening → Input →
    FuelM (List Event) ((List Token × Int) × Input)
  | 0, _, _, _ => spent
  | fuel + 1, depth, opened, i => do
    match ← i.next with
    | none =>
      match opened with
      | [] => return (([], i.line), i)
      | o :: _ => throw (.inText (.unclosed o.bracket) o.line i.name)
    | some (t, rest) =>
      if t.symbol = .terminator ∧ opened.isEmpty then return (([], t.line), rest.input)
      else do
        let opened ← track opened t i.name
        let (ts, more) ← expandToken c fuel depth t rest.input
        let ((us, endLine), last) ← readValue c fuel depth opened more
        return ((ts ++ us, endLine), last)

/-! ### Statements -/

/-- Reads in a dictionary that begins here; returns also its entries. -/
def inDictionary (act : FuelM ReadState α) : FuelM ReadState (α × List Entry) :=
  between (fun s => { s with scope := s.scope.inner })
    (fun s t => (t.scope.entries, { t with scope := s.scope })) act

/-- Reads in a block that begins here; returns also the entries of the block. -/
def inBlock (act : FuelM ReadState α) : FuelM ReadState (α × List Entry) :=
  between (fun s => { s with scope := .staged [] s.scope }) (fun _ t => Follows.leaveBlock t) act

def skipBranch (own : Directive) (t : Token) (allowOtherwise : Bool) :
    Nat → Nat → Input → FuelM ReadState (Token × Input)
  | 0, _, _ => spent
  | fuel + 1, inner, i => do
    match ← i.next with
    | none => throw (conditionalUnclosed own t i)
    | some (found, rest) =>
      if found.symbol.isDirectiveIn conditionals then
        skipBranch own t allowOtherwise fuel (inner + 1) rest.input
      else if found.symbol = .directive Directive.endIf.name then
        match inner with
        | 0 => return (found, rest.input)
        | inner + 1 => skipBranch own t allowOtherwise fuel inner rest.input
      else if isOtherwise found && inner == 0 then
        if allowOtherwise then return (found, rest.input)
        else throw (misuse t i (.secondElse found.line))
      else skipBranch own t allowOtherwise fuel inner rest.input

def readPrimitive (setup : Setup) (fuel : Nat) (depth : Int) (h : Heading) (i : Input) :
    FuelM ReadState (Entry × Input) := do
  let ((ts, endLine), rest) ← expanding setup fun c => readValue c fuel depth [] i
  return (.primitive (← Heading.checked { h with endLine }) ts, rest)

mutual

def readEntries (setup : Setup) : Nat → Int → Nat → Option Heading → List String → Input →
    FuelM ReadState (Option Token × Input)
  | 0, _, _, _, _, _ => spent
  | fuel + 1, depth, nesting, closing, stops, i => do
    match ← i.next with
    | none =>
      match closing with
      | some h => throw (.inText (.unclosedDictionary h.keyword) h.startLine i.name)
      | none => return (none, i)
    | some (t, rest) =>
      if t.symbol = .closer .brace then
        if closing.isSome then return (some t, rest.input)
        else throw (.inText .strayBrace t.line i.name)
      else if t.symbol = .terminator then
        readEntries setup fuel depth nesting closing stops rest.input
      else if t.symbol.isDirectiveIn stops then return (some t, rest.input)
      else
        let (_, more) ← readStatement setup fuel depth nesting t rest.input
        readEntries setup fuel depth nesting closing stops more
termination_by structural fuel => fuel

def readStatement (setup : Setup) : Nat → Int → Nat → Token → Input →
    FuelM ReadState (List Entry × Input)
  | 0, _, _, _, _ => spent
  | fuel + 1, depth, nesting, t, i =>
    ExceptT.adapt (Failure.within i.name) do
      match t.symbol with
      | .directive _ =>
        let (es, rest) ← runDirective setup fuel (depth + 1) nesting t i
        return (← plain (placeAll es), rest)
      | .reference name =>
        let (es, rest) ← plain (splice setup name t i)
        return (← plain (placeAll es), rest.input)
      | .word s =>
        let (e, rest) ← readEntry setup fuel depth nesting ⟨s, false, t.line, -1⟩ i
        return (← plain (place e), rest)
      | .quoted s =>
        let (e, rest) ← readEntry setup fuel depth nesting ⟨s, true, t.line, -1⟩ i
        return (← plain (place e), rest)
      | _ => throw (.inText (.keywordExpected t.text) t.line i.name)
termination_by structural fuel => fuel

def readEntry (setup : Setup) : Nat → Int → Nat → Heading → Input → FuelM ReadState (Entry × Input)
  | 0, _, _, _, _ => spent
  | fuel + 1, depth, nesting, h, i => do
    match ← i.next with
    | none => return (.primitive (← Heading.checked { h with endLine := h.startLine }) [], i)
    | some (⟨.opener .brace, _⟩, rest) =>
      if setup.settings.maxNesting ≤ nesting then
        throw (.inText (.nestedTooDeep setup.settings.maxNesting) h.startLine i.name)
      let h ← h.checked
      let ((ending, more), es) ←
        inDictionary (readEntries setup fuel depth (nesting + 1) (some h) [] rest.input)
      let endLine := (ending.map (·.line)).getD (-1)
      return (.dictionary { h with endLine } es, more)
    | some (⟨.reference name, line⟩, rest) =>
      match (← plain (surroundings setup)).find? name with
      | some (.dictionary target es) =>
        let (e, more) ← plain (copyDictionary h name ⟨.reference name, line⟩ target es rest.input)
        return (e, more.input)
      | _ => readPrimitive setup fuel depth h i
    | _ => readPrimitive setup fuel depth h i
termination_by structural fuel => fuel

def conditional (setup : Setup) : Nat → Int → Nat → Directive → Token → Bool → Input →
    FuelM ReadState (List Entry × Input)
  | 0, _, _, _, _, _, _ => spent
  | fuel + 1, depth, nesting, own, t, taken, i => do
    if taken then
      let ((ending, rest), es) ← inBlock (readEntries setup fuel depth nesting none branchEnds i)
      match ending with
      | none => throw (conditionalUnclosed own t i)
      | some found =>
        if isOtherwise found then
          let (_, more) ← skipBranch own t false fuel 0 rest
          return (es, more)
        else return (es, rest)
    else
      let (ending, rest) ← skipBranch own t true fuel 0 i
      if isOtherwise ending then
        let ((ending, more), es) ←
          inBlock (readEntries setup fuel depth nesting none branchEnds rest)
        match ending with
        | none => throw (conditionalUnclosed own t i)
        | some found =>
          if isOtherwise found then throw (misuse t i (.secondElse found.line))
          else return (es, more)
      else return ([], rest)
termination_by structural fuel => fuel

def runDirective (setup : Setup) : Nat → Int → Nat → Token → Input →
    FuelM ReadState (List Entry × Input)
  | 0, _, _, _, _ => spent
  | fuel + 1, depth, nesting, t, i => do
    checkDepth ⟨setup, []⟩ depth t i.name
    let argument (i : Input) := expanding setup fun c => readArgument c fuel depth i
    match ← setup.registry.get t.symbol.value t.line (some i.name) with
    | .includeFile optional =>
      let (found, rest) ← plain (Statement.expanding setup fun c => locate c optional t i)
      match found with
      | none => return ([], rest.input)
      | some p =>
        let file ← plain (Statement.expanding setup fun c => openFile c p)
        let (_, es) ← inBlock (readEntries setup fuel depth nesting none [] file)
        return (es, rest.input)
    | .ifEqual =>
      let (left, first) ← argument i
      let (right, rest) ← argument first
      let taken := left.map Token.text == right.map Token.text
      conditional setup fuel depth nesting .ifEqual t taken rest
    | .ifTrue =>
      let (condition, rest) ← argument i
      match Switch.ofTokens condition with
      | none => throw (misuse t i (.notSwitch (Token.spaced condition)))
      | some taken => conditional setup fuel depth nesting .ifTrue t taken rest
    | .otherwise => throw (misuse t i .loneElse)
    | .endIf => throw (misuse t i .loneEndif)
    | .remove =>
      let (names, rest) ← argument i
      plain (remove t i names)
      return ([], rest)
    | .inputMode =>
      let (es, rest) ← plain (changeMode setup t i)
      return (es, rest.input)
    | .calculate | .negate | .blank => throw (misuse t i .notAsKeyword)
termination_by structural fuel => fuel

end

/-- Reads a dictionary; gives also the references that were expanded. -/
def read (setup : Setup) (fuel : Nat) (i : Input) :
    Option ((Except Failure Entry × List Event) × List Visit) :=
  (run (readEntries setup fuel 0 0 none [] i) (Reader.start setup) []).map
    fun (result, s, visits) =>
      ((result.map fun (_, rest) => .dictionary ⟨i.name, false, 1, rest.line⟩ s.scope.entries,
        s.log), visits)

end Fuelled

end CaseDict
