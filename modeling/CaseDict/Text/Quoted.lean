import CaseDict.Text.Printable
/-! # Quoted text

Messages show a text between quotes: single ones, or double ones when the text holds a single quote
and no double quote. Backslash, the quote in use, and every character that is not printable are
escaped, the latter by two, four or eight hexadecimal digits. -/

namespace CaseDict.Text

/-- `n` in lower-case hexadecimal, filled up with zeros to `width`. -/
def hex (width n : Nat) : String :=
  let digits := Nat.toDigits 16 n
  String.ofList (List.replicate (width - digits.length) '0' ++ digits)

/-- An unprintable code point in the shortest of the three escaped forms. -/
def hexEscape (n : Nat) : String :=
  if n ≤ 0xff then "\\x" ++ hex 2 n
  else if n ≤ 0xffff then "\\u" ++ hex 4 n
  else "\\U" ++ hex 8 n

/-- One code point as it stands between the quotes `quote`. -/
def escapeCode (quote n : Nat) : String :=
  if n = quote || n = 0x5c then String.ofList ['\\', Char.ofNat n]
  else if n = 0x09 then "\\t"
  else if n = 0x0a then "\\n"
  else if n = 0x0d then "\\r"
  else if isPrintable n then String.singleton (Char.ofNat n)
  else hexEscape n

/-- The quote that surrounds the code points. -/
def quoteFor (codes : List Nat) : Nat :=
  if codes.contains 0x27 && !codes.contains 0x22 then 0x22 else 0x27

/-- Code points as quoted text; a code point need not be a character (lone surrogates are
escaped). -/
def quoteCodes (codes : List Nat) : String :=
  let quote := quoteFor codes
  let mark := String.singleton (Char.ofNat quote)
  mark ++ String.join (codes.map (escapeCode quote)) ++ mark

/-- A text between quotes. -/
def quote (s : String) : String := quoteCodes (s.toList.map Char.toNat)

end CaseDict.Text
