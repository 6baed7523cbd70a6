import CaseDict.Lexer
import CaseDict.Lookup
import CaseDict.Template
import CaseDict.Text.Identifier
/-! # What references stand for

A reference is looked up as a scoped name in the dictionaries around it, and if it denotes no entry
and is an identifier, in the environment. A reference that denotes nothing is an error; it is never
taken as empty. -/

namespace CaseDict

/-- What references are looked up in. -/
structure Surroundings where
  frames : List (Frame Entry)
  environment : List (String × String)

namespace Surroundings

/-- The entry that a name denotes. -/
def find? (s : Surroundings) (name : String) : Option Entry :=
  Lookup.scopedEntry Entry.inspection s.frames name

/-- The text that the environment has for a name. -/
def environmentText? (s : Surroundings) (name : String) : Option String :=
  if Text.isIdentifier name then s.environment.lookup name else none

/-- The entry that a name denotes, which must exist. -/
def entry (s : Surroundings) (name : String) (line : Int) : Except Failure Entry :=
  match s.find? name with
  | some e => .ok e
  | none => .error (.unplaced (.undefinedVariable name) line)

/-- The name of the text that a reference is read from. -/
def textName (name : String) : String := "$" ++ name

/-- The tokens of an environment text; all get the line of the reference. -/
def environmentTokens (name text : String) (line : Int) : Except Failure (List Token) := do
  let ts ← Lexer.tokens (textName name) text
  if ts.any (·.symbol == .terminator) then
    throw (.unplaced (.terminatorInEnvironment name) line)
  return ts.map fun t => { t with line }

/-- The tokens that a reference stands for. References among them are not followed. -/
def tokens (s : Surroundings) (name : String) (line : Int) : Except Failure (List Token) :=
  match s.find? name with
  | some (.primitive _ ts) => .ok ts
  | some (.dictionary ..) => .error (.unplaced (.dictionaryAsValue name) line)
  | none =>
    match s.environmentText? name with
    | some text => environmentTokens name text line
    | none => .error (.unplaced (.undefinedVariable name) line)

/-- A token inside a text: quoted text stands there without its quotes. -/
def plainText (t : Token) : String :=
  match t.symbol with
  | .quoted s => s
  | s => s.text

/-- The text that a reference in a text stands for. -/
def text (s : Surroundings) (line : Int) (name : String) : Except Failure String :=
  match s.find? name with
  | some (.primitive _ ts) => .ok (" ".intercalate (ts.map plainText))
  | some (.dictionary ..) => .error (.unplaced (.dictionaryInText name) line)
  | none =>
    match s.environmentText? name with
    | some text => .ok text
    | none => .error (.unplaced (.undefinedVariable name) line)

/-- A text with all references in it replaced. What replaces them is not searched again. -/
def expandText (s : Surroundings) (template : String) (line : Int) : Except Failure String :=
  Template.expand (s.text line) (Template.pieces template.toList)

end Surroundings

end CaseDict
