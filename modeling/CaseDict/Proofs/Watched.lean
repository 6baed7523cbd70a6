import CaseDict.Reader
/-! # Reading under a watch

A reader that a watch stops at certain statements: what comes of it says what a read comes to that
reads no such statement. A watch that is for nothing changes nothing (`readEntries_never`). -/

namespace CaseDict

open Expansion Statement

/-- Whether a read is stopped at a statement, by how deep expansion may still nest there and the
token that the statement begins with. -/
abbrev Watch := Nat → Token → Bool

namespace Watch

/-- No statement is watched for. -/
def never : Watch := fun _ _ => false

/-- Statements that change the input mode are watched for, unless nothing may be expanded there, so
that they fail. -/
def modes (r : Registry) : Watch
  | 0, _ => false
  | _ + 1, t =>
    match t.symbol with
    | .directive name => r.find? name = some .inputMode
    | _ => false

theorem modes_directive {r : Registry} {n : Nat} {t : Token} {name : String}
    (ht : t.symbol = .directive name) (hd : r.find? name = some .inputMode) :
    modes r (n + 1) t = true := by
  rw [modes, ht]
  exact decide_eq_true hd

/-- The failure of a read that is stopped. Reading puts no token back, so that no read fails with it
otherwise. -/
def stopped : Failure := .putBackTwice ""

theorem stopped_within {f : Failure} (h : f = stopped) (name : String) :
    f.within name = stopped := by
  rw [h]
  rfl

end Watch

namespace Watched

section Statements

variable (watch : Watch) (setup : Setup) (budget : Nat) (run : DirectiveRunner)

mutual

/-- `Statement.readEntries` under a watch. -/
def readEntries (nesting : Nat) (closing : Option Heading) (stops : List String) (i : Input) :
    ReadM (Taken (Option Token) i) := do
  match ← i.next with
  | none =>
    match closing with
    | some h => throw (.inText (.unclosedDictionary h.keyword) h.startLine i.name)
    | none => return (none, i.unread)
  | some (t, rest) =>
    if t.symbol = .closer .brace then
      if closing.isSome then return (some t, rest.toRest)
      else throw (.inText .strayBrace t.line i.name)
    else if t.symbol = .terminator then
      let (ending, more) ← readEntries nesting closing stops rest.input
      return (ending, (rest.onward more).toRest)
    else if t.symbol.isDirectiveIn stops then return (some t, rest.toRest)
    else
      let (_, more) ← readStatement nesting t rest.input
      let (ending, last) ← readEntries nesting closing stops (rest.onward more).input
      return (ending, ((rest.onward more).onward last).toRest)
termination_by (i.size, 0)
decreasing_by all_goals exact Prod.Lex.left _ _ (Input.Less.lt _)

/-- `Statement.readStatement` under a watch. -/
def readStatement (nesting : Nat) (t : Token) (i : Input) : ReadM (Taken (List Entry) i) :=
  if watch budget t then throw Watch.stopped
  else ExceptT.adapt (Failure.within i.name) do
    match t.symbol with
    | .directive _ =>
      let (es, rest) ← run nesting t i
      return (← placeAll es, rest)
    | .reference name =>
      let (es, rest) ← splice setup name t i
      return (← placeAll es, rest)
    | .word s =>
      let (e, rest) ← readEntry nesting ⟨s, false, t.line, -1⟩ i
      return (← place e, rest)
    | .quoted s =>
      let (e, rest) ← readEntry nesting ⟨s, true, t.line, -1⟩ i
      return (← place e, rest)
    | _ => throw (.inText (.keywordExpected t.text) t.line i.name)
termination_by (i.size, 2)
decreasing_by all_goals exact Prod.Lex.right _ (by decide)

/-- `Statement.readEntry` under a watch. -/
def readEntry (nesting : Nat) (h : Heading) (i : Input) : ReadM (Taken Entry i) := do
  match ← i.next with
  | none => return (.primitive (← Heading.checked { h with endLine := h.startLine }) [], i.unread)
  | some (⟨.opener .brace, _⟩, rest) =>
    if setup.settings.maxNesting ≤ nesting then
      throw (.inText (.nestedTooDeep setup.settings.maxNesting) h.startLine i.name)
    let h ← h.checked
    let ((ending, more), es) ← inDictionary (readEntries (nesting + 1) (some h) [] rest.input)
    let endLine := (ending.map (·.line)).getD (-1)
    return (.dictionary { h with endLine } es, (rest.onward more).toRest)
  | some (⟨.reference name, line⟩, rest) =>
    match (← surroundings setup).find? name with
    | some (.dictionary target es) =>
      let (e, more) ← copyDictionary h name ⟨.reference name, line⟩ target es rest.input
      return (e, (rest.onward more).toRest)
    | _ => readEntry.readPrimitive setup budget h i
  | _ => readEntry.readPrimitive setup budget h i
termination_by (i.size, 1)
decreasing_by exact Prod.Lex.left _ _ (Input.Less.lt _)

end

end Statements

variable (watch : Watch) (setup : Setup)

/-- `Statement.runDirective` under a watch. -/
def runDirective : Nat → DirectiveRunner
  | 0, _, t, i => throw (Context.tooDeep ⟨setup, []⟩ t i.name)
  | budget + 1, nesting, t, i => do
    let entries (closing : Option Heading) (stops : List String) (i : Input) :=
      readEntries watch setup budget (runDirective budget) nesting closing stops i
    let argument (i : Input) :=
      expanding setup fun c => readArgument (reference c budget) (inline c budget) i
    match ← setup.registry.get t.symbol.value t.line (some i.name) with
    | .includeFile optional =>
      let (found, rest) ← expanding setup fun c => locate c optional t i
      match found with
      | none => return ([], rest)
      | some p =>
        let file ← expanding setup fun c => openFile c p
        let (_, es) ← inBlock (entries none [] file)
        return (es, rest)
    | .ifEqual =>
      let (left, first) ← argument i
      let (right, second) ← argument first.input
      let rest := first.onward second
      let taken := left.map Token.text == right.map Token.text
      let (es, more) ← conditional (entries none) .ifEqual t taken rest.input
      return (es, rest.onward more)
    | .ifTrue =>
      let (condition, rest) ← argument i
      match Switch.ofTokens condition with
      | none => throw (misuse t i (.notSwitch (Token.spaced condition)))
      | some taken =>
        let (es, more) ← conditional (entries none) .ifTrue t taken rest.input
        return (es, rest.onward more)
    | .otherwise => throw (misuse t i .loneElse)
    | .endIf => throw (misuse t i .loneEndif)
    | .remove =>
      let (names, rest) ← argument i
      remove t i names
      return ([], rest)
    | .inputMode => changeMode setup t i
    | .calculate | .negate | .blank => throw (misuse t i .notAsKeyword)

/-- `Reader.entries` under a watch. -/
def entries (depth : Int) (nesting : Nat) (closing : Option Heading) (stops : List String)
    (i : Input) : ReadM (Taken (Option Token) i) :=
  let budget := setup.settings.budget depth
  readEntries watch setup budget (runDirective watch setup budget) nesting closing stops i

/-- `Reader.read` under a watch. -/
def read (i : Input) : Except Failure Entry × List Event :=
  let start : ReadState := ⟨.fresh [] [], setup.settings.mode, []⟩
  let (result, s) := (entries watch setup 0 0 none [] i).run.run start
  let made := result.map fun (_, rest) =>
    .dictionary ⟨i.name, false, 1, rest.input.line⟩ s.scope.entries
  (made, s.log)

/-! ### Watching for nothing -/

variable {setup} {budget : Nat} {run : DirectiveRunner}

/-- Nothing is watched for in inputs with fewer than `size` tokens. -/
abbrev NeverBelow (setup : Setup) (budget : Nat) (run : DirectiveRunner) (size : Nat) : Prop :=
  ∀ (i : Input), i.size < size → ∀ n closing stops,
    readEntries .never setup budget run n closing stops i =
      Statement.readEntries setup budget run n closing stops i

theorem readEntry_never {i : Input} (h : NeverBelow setup budget run i.size) (n : Nat)
    (k : Heading) :
    readEntry .never setup budget run n k i = Statement.readEntry setup budget run n k i := by
  have hrest (rest : i.Less) := h rest.input rest.lt
  rw [readEntry.eq_def, Statement.readEntry.eq_def]
  -- What is left, if anything, are the matches of the two definitions, which unfold to the same.
  simp only [hrest] <;> rfl

theorem readStatement_never {i : Input} (h : NeverBelow setup budget run i.size) (n : Nat)
    (t : Token) :
    readStatement .never setup budget run n t i =
      Statement.readStatement setup budget run n t i := by
  rw [readStatement.eq_def, Statement.readStatement.eq_def]
  simp only [readEntry_never h]
  rfl

theorem neverBelow (size : Nat) : NeverBelow setup budget run size := by
  induction size with
  | zero => intro i h; omega
  | succ size ih =>
    intro i hlt n closing stops
    have hstatement (rest : i.Less) : ∀ n t,
        readStatement .never setup budget run n t rest.input =
          Statement.readStatement setup budget run n t rest.input :=
      readStatement_never fun j hj => ih j (by have := rest.lt; omega)
    have hrest (rest : i.Less) := ih rest.input (by have := rest.lt; omega)
    rw [readEntries.eq_def, Statement.readEntries.eq_def]
    simp only [hstatement, hrest] <;> rfl

theorem readEntries_never :
    readEntries .never setup budget run = Statement.readEntries setup budget run := by
  funext n closing stops i
  exact neverBelow _ i (Nat.lt_succ_self _) n closing stops

theorem runDirective_never :
    runDirective .never setup budget = Statement.runDirective setup budget := by
  induction budget with
  | zero => rfl
  | succ budget ih =>
    funext n t i
    unfold runDirective Statement.runDirective
    rw [readEntries_never, ih] <;> rfl

/-- A watch for nothing changes nothing. -/
theorem entries_never : entries .never setup = Reader.entries setup := by
  funext depth n closing stops i
  rw [entries, runDirective_never, readEntries_never]
  rfl

theorem read_never : read .never setup = Reader.read setup := by
  funext i
  rw [read, entries_never]
  rfl

end Watched

/-- A read of the input comes to no statement that is watched for. -/
def Setup.Avoids (setup : Setup) (watch : Watch) (i : Input) : Prop :=
  (Watched.read watch setup i).1 ≠ .error Watch.stopped

end CaseDict
