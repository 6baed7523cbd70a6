import CaseDict.Text.Numeral
/-! # Marked texts

The tables for names and for decompositions of characters are texts in which every entry begins with
a mark. `marked` cuts such a text into its entries. -/

namespace CaseDict.Text

/-- The entries of a text: the mark of each, and what stands between it and the next mark. What
precedes the first mark is left out. -/
def marked (isMark : Char → Bool) (text : String) : List (Char × List Char) :=
  (text.toList.foldr (fun c (tail, entries) =>
    if isMark c then ([], (c, tail) :: entries) else (c :: tail, entries)) ([], [])).2

/-- The number in an entry, which a line end may follow. -/
def numberIn (base : Nat) (text : List Char) : Nat := valueIn base (text.filter isHexDigit)

end CaseDict.Text
