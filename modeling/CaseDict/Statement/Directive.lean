import CaseDict.Statement
import CaseDict.Switch
/-! # Directives in place of keywords

A file that is included brings its entries, a conditional those of the branch that is taken; the
other branch is passed over token by token and nothing in it is expanded. Both are read as blocks,
so that their entries are placed only when all has been read. Removals and changes of the input mode
bring no entries and take effect at once. -/

namespace CaseDict.Statement

open Expansion

/-- The directives that begin a conditional. -/
def conditionals : List String := [Directive.ifTrue.name, Directive.ifEqual.name]

/-- The directives that end a branch. -/
def branchEnds : List String := [Directive.otherwise.name, Directive.endIf.name]

def isOtherwise (t : Token) : Bool := t.symbol.isDirectiveIn [Directive.otherwise.name]

/-- The failure of a conditional that is not ended. -/
def conditionalUnclosed (own : Directive) (t : Token) (i : Input) : Failure :=
  .inText (.conditionalUnclosed own.name) t.line i.name

/-- Passes over a branch of the conditional `own`, whose directive is `t`, with `inner` conditionals
open in it; returns the directive that ends the branch. -/
def skipBranch (own : Directive) (t : Token) (allowOtherwise : Bool) (inner : Nat) (i : Input) :
    Except Failure (Taken Token i) := do
  match ← i.next with
  | none => throw (conditionalUnclosed own t i)
  | some (found, rest) =>
    let skip (inner : Nat) : Except Failure (Taken Token i) := do
      let (ending, more) ← skipBranch own t allowOtherwise inner rest.input
      return (ending, (rest.onward more).toRest)
    if found.symbol.isDirectiveIn conditionals then skip (inner + 1)
    else if found.symbol = .directive Directive.endIf.name then
      match inner with
      | 0 => return (found, rest.toRest)
      | inner + 1 => skip inner
    else if isOtherwise found && inner == 0 then
      if allowOtherwise then return (found, rest.toRest)
      else throw (misuse t i (.secondElse found.line))
    else skip inner
termination_by i.size
decreasing_by exact Input.Less.lt _

/-- Reads a conditional whose condition is `taken`. The statements of a branch are read by
`entries`. -/
def conditional (entries : List String → (i : Input) → ReadM (Taken (Option Token) i))
    (own : Directive) (t : Token) (taken : Bool) (i : Input) : ReadM (Taken (List Entry) i) := do
  if taken then
    let ((ending, rest), es) ← inBlock (entries branchEnds i)
    match ending with
    | none => throw (conditionalUnclosed own t i)
    | some found =>
      if isOtherwise found then
        let (_, more) ← skipBranch own t false 0 rest.input
        return (es, rest.onward more)
      else return (es, rest)
  else
    let (ending, rest) ← skipBranch own t true 0 i
    if isOtherwise ending then
      let ((ending, more), es) ← inBlock (entries branchEnds rest.input)
      match ending with
      | none => throw (conditionalUnclosed own t i)
      | some found =>
        if isOtherwise found then throw (misuse t i (.secondElse found.line))
        else return (es, rest.onward more)
    else return ([], rest)

/-- Removes the entries that the tokens name. A malformed expression ends the removals; those before
it are then done in the innermost dictionary or block only. -/
def remove (t : Token) (i : Input) (names : List Token) : ReadM Unit := do
  let wanted := Removal.ofTokens names
  if wanted.isEmpty then throw (misuse t i .keywordsExpected)
  match Removal.readAll wanted with
  | (what, none) => modify fun s => { s with scope := s.scope.removeThrough what }
  | (what, some f) =>
    modify fun s => { s with scope := s.scope.remove what }
    throw f

/-- Reads the name of an input mode and changes to it; `default` is the mode of the settings. -/
def changeMode (setup : Setup) (t : Token) (i : Input) : ReadM (Taken (List Entry) i) := do
  let (argument, rest) ← i.expect "#inputMode mode"
  match argument.symbol with
  | .word s =>
    let mode ←
      if s = "default" then pure setup.settings.mode
      else match InputMode.ofName? s with
        | some mode => pure mode
        | none => throw (misuse t i (.unknownMode s))
    modify fun s => { s with mode }
    return ([], rest.toRest)
  | s => throw (misuse t i (.modeExpected s.text))

/-- Runs a directive in place of a keyword, in which expansion may nest `budget` deep. -/
def runDirective (setup : Setup) : Nat → DirectiveRunner
  | 0, _, t, i => throw (Context.tooDeep ⟨setup, []⟩ t i.name)
  | budget + 1, nesting, t, i => do
    let entries (closing : Option Heading) (stops : List String) (i : Input) :=
      readEntries setup budget (runDirective setup budget) nesting closing stops i
    let argument (i : Input) :=
      expanding setup fun c => readArgument (reference c budget) (inline c budget) i
    match ← setup.registry.get t.symbol.value t.line (some i.name) with
    | .includeFile optional =>
      let (found, rest) ← expanding setup fun c => locate c optional t i
      match found with
      | none => return ([], rest)
      | some p =>
        let file ← expanding setup fun c => openFile c p
        let (_, es) ← inBlock (entries none [] file)
        return (es, rest)
    | .ifEqual =>
      let (left, first) ← argument i
      let (right, second) ← argument first.input
      let rest := first.onward second
      let taken := left.map Token.text == right.map Token.text
      let (es, more) ← conditional (entries none) .ifEqual t taken rest.input
      return (es, rest.onward more)
    | .ifTrue =>
      let (condition, rest) ← argument i
      match Switch.ofTokens condition with
      | none => throw (misuse t i (.notSwitch (Token.spaced condition)))
      | some taken =>
        let (es, more) ← conditional (entries none) .ifTrue t taken rest.input
        return (es, rest.onward more)
    | .otherwise => throw (misuse t i .loneElse)
    | .endIf => throw (misuse t i .loneEndif)
    | .remove =>
      let (names, rest) ← argument i
      remove t i names
      return ([], rest)
    | .inputMode => changeMode setup t i
    | .calculate | .negate | .blank => throw (misuse t i .notAsKeyword)

end CaseDict.Statement
