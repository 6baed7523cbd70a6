/-! # White space

The 29 characters that separate words: the ASCII controls from tab to carriage return, the four
information separators, and the spaces and line separators of Unicode. -/

namespace CaseDict.Text

/-- White space beyond ASCII. -/
def wideBlanks : List Nat :=
  [0x85, 0xa0, 0x1680, 0x2000, 0x2001, 0x2002, 0x2003, 0x2004, 0x2005, 0x2006, 0x2007, 0x2008,
   0x2009, 0x200a, 0x2028, 0x2029, 0x202f, 0x205f, 0x3000]

/-- White space. -/
def isBlank (c : Char) : Bool :=
  let n := c.toNat
  if n < 128 then (0x09 ≤ n && n ≤ 0x0d) || (0x1c ≤ n && n ≤ 0x20) else wideBlanks.contains n

/-- The characters without the white space at both ends. -/
def trim (cs : List Char) : List Char :=
  ((cs.dropWhile isBlank).reverse.dropWhile isBlank).reverse

end CaseDict.Text
