import CaseDict.Value
/-! # Values as JSON

Values are written as JSON text in ASCII, two spaces deeper at each level. Lists and maps have one
item a line; empty ones stand on one line. Doubles are written as in dictionaries, apart from those
that are not finite. -/

namespace CaseDict.Json

/-- Doubles that are not finite are written as names. -/
def layout : Number.Layout := { Number.layout with notANumber := "NaN", infinite := "Infinity" }

def number : Number → String
  | .int n => toString n
  | .float x => layout.write x

/-- One 16-bit unit as an escape. -/
def unit (n : Nat) : String := "\\u" ++ Text.hex 4 n

/-- A character between quotes: printable ASCII stands for itself; beyond the basic plane there are
two units. -/
def character (c : Char) : String :=
  let n := c.toNat
  if c = '"' then "\\\""
  else if c = '\\' then "\\\\"
  else if n = 0x08 then "\\b"
  else if n = 0x09 then "\\t"
  else if n = 0x0a then "\\n"
  else if n = 0x0c then "\\f"
  else if n = 0x0d then "\\r"
  else if 0x20 ≤ n && n < 0x7f then String.singleton c
  else if n < 0x10000 then unit n
  else unit (0xd800 + (n - 0x10000) / 0x400) ++ unit (0xdc00 + (n - 0x10000) % 0x400)

def string (s : String) : String := "\"" ++ String.join (s.toList.map character) ++ "\""

/-- A new line at a level. -/
def newline (level : Nat) : String := "\n" ++ String.ofList (List.replicate (2 * level) ' ')

mutual

/-- A value at a level. -/
def write (level : Nat) : Value → String
  | .text s => string s
  | .number n => number n
  | .list [] => "[]"
  | .list (v :: vs) =>
    "[" ++ newline (level + 1) ++ write (level + 1) v ++ items (level + 1) vs ++
      newline level ++ "]"
  | .map [] => "\x7b\x7d"
  | .map ((k, v) :: fs) =>
    "\x7b" ++ newline (level + 1) ++ string k ++ ": " ++ write (level + 1) v ++
      fields (level + 1) fs ++ newline level ++ "\x7d"

/-- The items after the first. -/
def items (level : Nat) : List Value → String
  | [] => ""
  | v :: vs => "," ++ newline level ++ write level v ++ items level vs

/-- The fields after the first. -/
def fields (level : Nat) : List (String × Value) → String
  | [] => ""
  | (k, v) :: fs => "," ++ newline level ++ string k ++ ": " ++ write level v ++ fields level fs

end

/-- The text of a value. -/
def ofValue (v : Value) : String := write 0 v

end CaseDict.Json
