import CaseDict.Token
/-! # Switches

A switch is one token that says yes or no: a number is on unless it is zero, and some words, in
letters of either case, stand for on and off. -/

namespace CaseDict.Switch

def onWords : List String := ["true", "on", "yes", "y", "t"]

def offWords : List String := ["false", "off", "no", "n", "f", "none"]

/-- What a word says. -/
def ofWord (s : String) : Option Bool :=
  let lower := String.ofList (s.toList.map Char.toLower)
  if onWords.contains lower then some true
  else if offWords.contains lower then some false
  else none

/-- What tokens say, if they are a switch. -/
def ofTokens : List Token → Option Bool
  | [⟨.number n, _⟩] => some n.isNonzero
  | [⟨.word s, _⟩] | [⟨.quoted s, _⟩] => ofWord s
  | _ => none

end CaseDict.Switch
