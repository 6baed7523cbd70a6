import CaseDict.Pattern.Width
/-! # Reading from the text of a pattern

A pattern is read in pieces: a character, or a backslash with the character after it. A backslash at
the end is malformed as soon as it comes next. -/

namespace CaseDict.Pattern

/-- A piece of the text of a pattern. -/
inductive Piece where
  | plain (c : Char)
  | escaped (c : Char)
  /-- A backslash at the end. -/
  | lone
  deriving DecidableEq, Repr

namespace Piece

/-- The pieces of a text. -/
def ofText : List Char → List Piece
  | '\\' :: c :: cs => escaped c :: ofText cs
  | ['\\'] => [lone]
  | c :: cs => plain c :: ofText cs
  | [] => []

/-- How the piece is spelled. -/
def text : Piece → List Char
  | plain c => [c]
  | escaped c => ['\\', c]
  | lone => ['\\']

/-- A character by itself for which `holds` is true. -/
def isPlain (holds : Char → Bool) : Piece → Bool
  | plain c => holds c
  | _ => false

end Piece

/-- The options that hold at a place of the pattern. -/
structure Options where
  ignoreCase : Bool := false
  multiline : Bool := false
  dotAll : Bool := false
  verbose : Bool := false
  ascii : Bool := false
  unicode : Bool := false
  /-- The pattern must not repeat anything. -/
  template : Bool := false

/-- Which letters count as the same under the options. -/
def Options.rule (o : Options) : CaseRule :=
  if !o.ignoreCase then .exact else if o.ascii then .ascii else .unicode

/-- What is left of the pattern, and what has been learnt about its groups. -/
structure Source where
  rest : List Piece
  /-- The options set for the whole pattern. -/
  options : Options := {}
  /-- The index of the next numbered group. -/
  nextGroup : Nat := 1
  /-- The widths of the groups that are closed. -/
  closed : List (Nat × Width) := []
  names : List (String × Nat) := []
  /-- The groups that conditions name by number. -/
  conditions : List Nat := []
  /-- Inside a look behind: the first group opened there. -/
  behindFrom : Option Nat := none

/-- Parsers of regular expressions. -/
abbrev Parser := StateT Source (Except Fault)

def malformed {α : Type} : Parser α := throw .malformed

/-- Goes on only if the condition holds. -/
def require (condition : Bool) : Parser Unit := if condition then pure () else malformed

/-- Goes on with the given pieces. -/
def goTo (rest : List Piece) : Parser Unit := do
  require (rest.head? != some .lone)
  modify ({ · with rest })

def peek : Parser (Option Piece) := return (← get).rest.head?

/-- Takes the next piece. -/
def takePiece : Parser Piece := do
  match (← get).rest with
  | p :: ps => goTo ps; return p
  | [] => malformed

/-- Takes the next piece if it is the character `c`. -/
def eat (c : Char) : Parser Bool := do
  match (← get).rest with
  | .plain d :: ps =>
    if c = d then
      goTo ps
      return true
    else return false
  | _ => return false

/-- Takes characters as long as `holds` is true of them, at most `most`. -/
def takeUpTo (most : Nat) (holds : Char → Bool) : Parser (List Char) := do
  let rest := (← get).rest
  let taken := (rest.take most).takeWhile (·.isPlain holds)
  goTo (rest.drop taken.length)
  return taken.flatMap Piece.text

def takeAll (holds : Char → Bool) : Parser (List Char) := do
  takeUpTo (← get).rest.length holds

/-- Takes what stands before the next `stop`, and the `stop`. There must be something. -/
def takeUntil (stop : Char) : Parser (List Char) := do
  let rest := (← get).rest
  let taken := rest.takeWhile (· != .plain stop)
  require (!taken.isEmpty && taken.length < rest.length)
  goTo (rest.drop (taken.length + 1))
  return taken.flatMap Piece.text

end CaseDict.Pattern
