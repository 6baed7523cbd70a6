import CaseDict.Entry
/-! # Writing dictionaries

Entries are written in the notation they are read from: a primitive entry on one line, its keyword
filled up to a column, and a dictionary between braces on lines of their own, four spaces deeper. -/

namespace CaseDict.Writer

/-- No space follows an opening round or square bracket. -/
def tightAfter : Symbol → Bool
  | .opener .round | .opener .square => true
  | _ => false

/-- No space goes before a closing round or square bracket. -/
def tightBefore : Symbol → Bool
  | .closer .round | .closer .square => true
  | _ => false

/-- The tokens after `previous`. -/
def tokensAfter (previous : Symbol) : List Token → String
  | [] => ""
  | t :: ts =>
    let gap := if tightAfter previous || tightBefore t.symbol then "" else " "
    gap ++ t.text ++ tokensAfter t.symbol ts

/-- Tokens with single spaces between them, but none inside round and square brackets. -/
def tokens : List Token → String
  | [] => ""
  | t :: ts => t.text ++ tokensAfter t.symbol ts

/-- The keyword, quoted if it is a pattern. -/
def keyword (h : Heading) : String :=
  if h.isPattern then (Symbol.quoted h.keyword).text else h.keyword

/-- Keywords are filled up to this width. -/
def keywordWidth : Nat := 15

def fill (width : Nat) (s : String) : String :=
  s ++ String.ofList (List.replicate (width - s.length) ' ')

/-- The margin at a level of nesting; below level zero there is none. -/
def margin (level : Int) : String := String.ofList (List.replicate (4 * level).toNat ' ')

def primitive (level : Int) (h : Heading) (ts : List Token) : String :=
  let body := tokens ts
  if body.isEmpty then margin level ++ keyword h ++ ";\n"
  else margin level ++ fill keywordWidth (keyword h) ++ " " ++ body ++ ";\n"

mutual

/-- An entry in full, at a level of nesting. -/
def entry (level : Int) : Entry → String
  | .primitive h ts => primitive level h ts
  | .dictionary h es =>
    margin level ++ keyword h ++ "\n" ++ margin level ++ "\x7b\n" ++ entries (level + 1) es ++
      margin level ++ "\x7d\n"

/-- Entries one after the other. -/
def entries (level : Int) : List Entry → String
  | [] => ""
  | e :: es => entry level e ++ entries level es

end

/-- The content of an entry: the tokens without keyword, or the entries without braces. -/
def content (level : Int) : Entry → String
  | .primitive _ ts => tokens ts
  | .dictionary _ es => entries level es

/-- An entry in full or its content only. -/
def write (e : Entry) (full : Bool) (level : Int := 0) : String :=
  if full then entry level e else content level e

/-! ### Diagnostics -/

def alignRight (width : Nat) (s : String) : String :=
  String.ofList (List.replicate (width - s.length) ' ') ++ s

/-- An entry in one line: its kind, keyword and size. -/
def describe : Entry → String
  | .primitive h ts =>
    "PrimitiveEntry(keyword=" ++ Text.quote h.keyword ++ ", tokens=" ++ toString ts.length ++ ")"
  | .dictionary h es =>
    "Dictionary(keyword=" ++ Text.quote h.keyword ++ ", entries=" ++ toString es.length ++ ")"

/-- One token with its number, line and kind. -/
def tokenLine (index : Nat) (t : Token) : String :=
  "  [" ++ toString index ++ "] line " ++ alignRight 4 (toString t.line) ++ "  " ++
    fill 13 t.symbol.kind.label ++ " " ++ t.text

/-- The tokens of a primitive entry, one a line, under a line that counts them. -/
def info (h : Heading) (ts : List Token) : String :=
  let first := h.keyword ++ ": " ++ toString ts.length ++ " token" ++
    (if ts.length = 1 then "" else "s") ++
    " (lines " ++ toString h.startLine ++ "-" ++ toString h.endLine ++ ")"
  "\n".intercalate (first :: ts.mapIdx tokenLine)

end CaseDict.Writer
