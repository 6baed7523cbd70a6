import CaseDict.Entry
/-! # Values

What a dictionary says, without its notation: a single token is a text or a number, several are a
list, brackets make nested lists, and a dictionary maps each keyword to the value of its newest
entry. -/

namespace CaseDict

/-- A value of an entry. -/
inductive Value where
  | text (s : String)
  | number (n : Number)
  | list (items : List Value)
  | map (fields : List (String × Value))

namespace Value

/-- The value of one token that is no bracket; references and directives are taken as written. -/
def ofSymbol : Symbol → Value
  | .number n => .number n
  | .reference s => .text (Symbol.reference s).text
  | .directive s => .text (Symbol.directive s).text
  | s => .text s.value

/-- Closes the groups that are still open. -/
def closeAll (current : List Value) : List (List Value) → List Value
  | [] => current
  | outer :: more => closeAll (outer ++ [.list current]) more

/-- The items of a list of tokens. `current` is the group being read and `opened` the groups around
it, the innermost first. A closing bracket without an open group is an item itself. -/
def items (opened : List (List Value)) (current : List Value) : List Token → List Value
  | [] => closeAll current opened
  | t :: ts =>
    match t.symbol, opened with
    | .opener _, _ => items (current :: opened) [] ts
    | .closer _, outer :: more => items more (outer ++ [.list current]) ts
    | .comma, _ | .terminator, _ => items opened current ts
    | s, _ => items opened (current ++ [ofSymbol s]) ts

/-- The value of a list of tokens: of one item that item, else the list of the items. -/
def ofTokens (ts : List Token) : Value :=
  match items [] [] ts with
  | [v] => v
  | vs => .list vs

/-- Sets a field; it keeps its place if it is there already. -/
def setField (key : String) (v : Value) : List (String × Value) → List (String × Value)
  | [] => [(key, v)]
  | (k, w) :: rest => if k = key then (k, v) :: rest else (k, w) :: setField key v rest

end Value

namespace Entry

mutual

/-- The value of an entry. -/
def value : Entry → Value
  | primitive _ ts => .ofTokens ts
  | dictionary _ es => .map (fields [] es)

/-- The fields of a dictionary, added to those before. -/
def fields (before : List (String × Value)) : List Entry → List (String × Value)
  | [] => before
  | e :: es => fields (Value.setField e.keyword e.value before) es

end

end Entry

end CaseDict
