import CaseDict.Entry
/-! # Removals

Entries are removed by keyword or by a regular expression that matches the text of the keyword as a
whole. -/

namespace CaseDict

/-- Which entries go. -/
inductive Removal where
  | keyword (text : String)
  | matching (expression : Pattern.Regex)

namespace Removal

/-- Reads a removal; a malformed expression is a failure. -/
def read (name : String) (isPattern : Bool) : Except Failure Removal :=
  if isPattern then
    match Pattern.Regex.parse name with
    | .ok r => .ok (.matching r)
    | .error why => .error (.pattern why)
  else .ok (.keyword name)

/-- An entry of that keyword goes. -/
def takes (r : Removal) (k : String) : Bool :=
  match r with
  | keyword text => k == text
  | matching expression => expression.matches k

/-- What is left of entries. -/
def apply (r : Removal) (es : List Entry) : List Entry := es.filter (!r.takes ·.keyword)

/-- What several removals leave of entries. -/
def applyAll (what : List Removal) (es : List Entry) : List Entry :=
  what.foldl (fun es r => r.apply es) es

/-- The removals that tokens name: words keywords and quoted texts expressions. Other tokens do not
count. -/
def ofTokens (ts : List Token) : List (String × Bool) :=
  ts.filterMap fun t =>
    match t.symbol with
    | .word s => some (s, false)
    | .quoted s => some (s, true)
    | _ => none

/-- Reads removals up to the first malformed one, whose failure is the second part. -/
def readAll : List (String × Bool) → List Removal × Option Failure
  | [] => ([], none)
  | (name, isPattern) :: more =>
    match read name isPattern with
    | .error f => ([], some f)
    | .ok r =>
      let (rs, f) := readAll more
      (r :: rs, f)

end Removal

end CaseDict
