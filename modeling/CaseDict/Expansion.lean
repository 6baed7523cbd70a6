import CaseDict.Calc
import CaseDict.Directive
import CaseDict.Files
import CaseDict.Input
import CaseDict.Log
import CaseDict.Resolution
/-! # Expansion

In a value every reference stands for the tokens it denotes, and every directive for the tokens it
computes. Both may bring further references and directives, which are expanded in turn, to a limited
depth: `reference n` and `inline n` expand what may still nest `n` deep, and `n = 0` is too deep. -/

namespace CaseDict

/-- What a read is given beside its text. -/
structure Setup where
  settings : Settings := {}
  registry : Registry := .standard
  files : Files

/-- How deep expansion may still go at a depth. -/
def Settings.budget (s : Settings) (depth : Int) : Nat := (s.maxExpansion - depth).toNat

/-- Expansion reports events and may fail. -/
abbrev ExpandM := ExceptT Failure (StateM (List Event))

namespace Expansion

def report (e : Event) : ExpandM Unit := modify (· ++ [e])

/-- What is expanded in: the setup and the dictionaries around. -/
structure Context where
  setup : Setup
  frames : List (Frame Entry)

namespace Context

def surroundings (c : Context) : Surroundings := ⟨c.frames, c.setup.settings.environment⟩

def tooDeep (c : Context) (t : Token) (source : String) : Failure :=
  .inText (.expansionTooDeep t.text c.setup.settings.maxExpansion) t.line source

end Context

/-- A result with the input that is left. -/
abbrev Taken (α : Type) (i : Input) := α × i.Rest

/-! ### Brackets -/

/-- A bracket that is open, and where it was opened. -/
structure Opening where
  bracket : Bracket
  line : Int

/-- Closes the innermost open bracket. -/
def close (opened : List Opening) (b : Bracket) (line : Int) (source : String) :
    Except Failure (List Opening) :=
  match opened with
  | [] => .error (.inText (.unopened b) line source)
  | o :: outer =>
    if b = o.bracket then .ok outer
    else .error (.inText (.mismatched o.bracket o.line b) line source)

/-- The brackets open after a token, the innermost first. -/
def track (opened : List Opening) (t : Token) (source : String) : Except Failure (List Opening) :=
  match t.symbol with
  | .opener b => .ok (⟨b, t.line⟩ :: opened)
  | .closer b => close opened b t.line source
  | _ => .ok opened

/-! ### Sequences of tokens

`reference t source` expands a reference that stands in the text `source`, `inline t i` a directive
before the input `i`. -/

section Sequences

variable (reference : Token → String → ExpandM (List Token))
  (inline : Token → (i : Input) → ExpandM (Taken (List Token) i))

/-- The tokens that a token before the input `i` stands for. -/
def expandToken (t : Token) (i : Input) : ExpandM (Taken (List Token) i) :=
  match t.symbol with
  | .reference _ => do return (← reference t i.name, i.unread)
  | .directive _ => inline t i
  | _ => return ([t], i.unread)

/-- The tokens that all tokens of an input stand for. -/
def expandAll (i : Input) : ExpandM (List Token) := do
  match ← i.next with
  | none => return []
  | some (t, rest) =>
    let (ts, more) ← expandToken reference inline t rest.input
    return ts ++ (← expandAll (rest.onward more).input)
termination_by i.size
decreasing_by exact Input.Less.lt _

/-- Reads on in a bracketed group until its brackets are closed. -/
def readGroup (o : Opening) (outer : List Opening) (i : Input) :
    ExpandM (Taken (List Token) i) := do
  let (t, rest) ← i.expect ("closing '" ++ o.bracket.closing ++ "'")
  let opened ← track (o :: outer) t i.name
  let (ts, more) ← expandToken reference inline t rest.input
  match opened with
  | [] => return (ts, (rest.onward more).toRest)
  | o :: outer =>
    let (us, last) ← readGroup o outer (rest.onward more).input
    return (ts ++ us, ((rest.onward more).onward last).toRest)
termination_by i.size
decreasing_by exact Input.Less.lt _

/-- Reads one argument of a directive: a token, what a reference or directive stands for, or a
bracketed group. -/
def readArgument (i : Input) : ExpandM (Taken (List Token) i) := do
  let (t, rest) ← i.expect "directive argument"
  match t.symbol with
  | .terminator | .closer _ => throw (.inText (.argumentExpected t.text) t.line i.name)
  | .opener b =>
    let (ts, more) ← readGroup reference inline ⟨b, t.line⟩ [] rest.input
    return (t :: ts, (rest.onward more).toRest)
  | _ =>
    let (ts, more) ← expandToken reference inline t rest.input
    return (ts, (rest.onward more).toRest)

/-- Reads the value of an entry up to its terminator or the end of the input; returns also the line
it ends on. -/
def readValue (opened : List Opening) (i : Input) : ExpandM (Taken (List Token × Int) i) := do
  match ← i.next with
  | none =>
    match opened with
    | [] => return (([], i.line), i.unread)
    | o :: _ => throw (.inText (.unclosed o.bracket) o.line i.name)
  | some (t, rest) =>
    if t.symbol = .terminator ∧ opened.isEmpty then return (([], t.line), rest.toRest)
    else do
      let opened ← track opened t i.name
      let (ts, more) ← expandToken reference inline t rest.input
      let ((us, endLine), last) ← readValue opened (rest.onward more).input
      return ((ts ++ us, endLine), ((rest.onward more).onward last).toRest)
termination_by i.size
decreasing_by exact Input.Less.lt _

end Sequences

/-! ### Files -/

/-- The places where a file to be included from the text `source` may stand. -/
def candidates (c : Context) (source : String) (name : Path) : ExpandM (List Path) := do
  if name.isAbsolute then return [name]
  let files := c.setup.files
  let source := Path.ofString source
  report (.consulted source.text)
  let beside := if ← files.isFile source then source.parent else Path.ofString files.current
  return (beside :: c.setup.settings.includePaths.map Path.ofString).map (·.join name)

/-- The first of the places where a file stands. -/
def firstFile (c : Context) : List Path → ExpandM (Option Path)
  | [] => return none
  | p :: ps => do
    report (.consulted p.text)
    if ← c.setup.files.isFile p then return some p else firstFile c ps

/-- The failure of the directive `t` before the input `i`. -/
def misuse (t : Token) (i : Input) (how : Misuse) : Failure :=
  .inText (.misuse t.symbol.value how) t.line i.name

/-- Reads the file name after an inclusion and finds the file, which may be missing if the inclusion
is optional. -/
def locate (c : Context) (optional : Bool) (t : Token) (i : Input) :
    ExpandM (Taken (Option Path) i) := do
  let own := (Directive.includeFile optional).name
  let (argument, rest) ← i.expect ("#" ++ own ++ " file name")
  let raw ← match argument.symbol with
    | .quoted s | .word s => pure s
    | s => throw (misuse t i (.fileNameExpected s.text))
  let name ← c.surroundings.expandText raw t.line
  let places ← candidates c i.name (Path.ofString name)
  match ← firstFile c places with
  | some p => return (some p, rest.toRest)
  | none =>
    if optional then return (none, rest.toRest)
    else do
      let searched := places.map Path.text
      report (.includeMissing name searched)
      throw (.inText (.includeMissing name searched) t.line i.name)

/-- The input that a file holds. -/
def openFile (c : Context) (p : Path) : ExpandM Input :=
  return .ofText p.text (← c.setup.files.readText p)

/-! ### Directives in values -/

/-- Computes the expression after `t`. -/
def calculate (c : Context) (t : Token) (i : Input) : ExpandM (Taken (List Token) i) := do
  let (argument, rest) ← i.expect "#calc expression"
  let source ← match argument.symbol with
    | .quoted s | .word s => pure s
    | .number n => pure n.text
    | s => throw (misuse t i (.expressionExpected s.text))
  let expression ← c.surroundings.expandText source t.line
  match Calc.calculate expression with
  | .error why => throw (misuse t i (.calculation why))
  | .ok (.number n) =>
    if n.writable then return ([⟨.number n, t.line⟩], rest.toRest) else throw .numeralTooLong
  | .ok s => return ([⟨s, t.line⟩], rest.toRest)

mutual

/-- Expands a reference that may nest `n` deep. -/
def reference (c : Context) : Nat → Token → String → ExpandM (List Token)
  | 0, t, source => throw (c.tooDeep t source)
  | n + 1, t, _ => do
    let name := t.symbol.value
    let ts ← c.surroundings.tokens name t.line
    if ts.any (·.symbol.isMacro) then
      expandAll (reference c n) (inline c n) (.ofTokens (Surroundings.textName name) ts)
    else return ts

/-- Expands a directive in a value that may nest `n` deep. -/
def inline (c : Context) : Nat → Token → (i : Input) → ExpandM (Taken (List Token) i)
  | 0, t, i => throw (c.tooDeep t i.name)
  | n + 1, t, i => do
    match ← c.setup.registry.get t.symbol.value t.line (some i.name) with
    | .calculate => calculate c t i
    | .negate =>
      let (argument, rest) ← readArgument (reference c n) (inline c n) i
      match argument with
      | [⟨.number x, _⟩] => return ([⟨.number x.negate, t.line⟩], rest)
      | _ => throw (misuse t i (.numberExpected (Token.spaced argument)))
    | .includeFile optional =>
      let (found, rest) ← locate c optional t i
      match found with
      | none => return ([], rest)
      | some p => return (← expandAll (reference c n) (inline c n) (← openFile c p), rest)
    | _ => throw (misuse t i .notInValue)

end

end Expansion

end CaseDict
