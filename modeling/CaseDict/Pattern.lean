import CaseDict.Pattern.Match
import CaseDict.Pattern.Parser
/-! # Keyword patterns

A quoted keyword is a regular expression that selects every name it matches as a whole. -/

namespace CaseDict.Pattern

/-- What is wrong with the keyword as a regular expression. -/
def fault? (keyword : String) : Option Fault :=
  match Regex.parse keyword with
  | .ok _ => none
  | .error why => some why

/-- What comes of matching a name with the pattern. One that is no regular expression matches its
own text only. -/
def verdict (keyword name : String) : Verdict :=
  match Regex.parse keyword with
  | .ok r => r.verdict name
  | .error _ => if keyword == name then .matched else .unmatched

/-- The pattern selects the name. -/
def selects (keyword name : String) : Bool := verdict keyword name = .matched

end CaseDict.Pattern
