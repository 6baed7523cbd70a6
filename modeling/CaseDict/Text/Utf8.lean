/-! # Reading octets as text

Octets are read as UTF-8. Whatever is not well formed becomes U+FFFD, one for every longest piece
that begins a character but does not end it, and one for every octet that begins none. Line ends of
all kinds become newlines. -/

namespace CaseDict.Text

/-- The number of octets that follow a leading octet, the range of the first of them, and the bits
that the leading octet gives. -/
def lead? (b : Nat) : Option (Nat × Nat × Nat × Nat) :=
  if 0xc2 ≤ b && b ≤ 0xdf then some (1, 0x80, 0xbf, b % 0x20)
  else if b = 0xe0 then some (2, 0xa0, 0xbf, 0)
  else if b = 0xed then some (2, 0x80, 0x9f, 0xd)
  else if 0xe1 ≤ b && b ≤ 0xef then some (2, 0x80, 0xbf, b % 0x10)
  else if b = 0xf0 then some (3, 0x90, 0xbf, 0)
  else if 0xf1 ≤ b && b ≤ 0xf3 then some (3, 0x80, 0xbf, b % 8)
  else if b = 0xf4 then some (3, 0x80, 0x8f, 4)
  else none

/-- A character that is being read: how many octets it still needs, the range of the next one, and
the bits so far. -/
structure Pending where
  needed : Nat
  low : Nat
  high : Nat
  bits : Nat

def replacement : Char := '\ufffd'

/-- Begins a character with the octet `b`: a character of its own, one that goes on, or none. -/
def begin (b : Nat) : Option Char × Option Pending :=
  if b < 0x80 then (some (Char.ofNat b), none)
  else match lead? b with
    | some (needed, low, high, bits) => (none, some ⟨needed, low, high, bits⟩)
    | none => (some replacement, none)

/-- The characters of octets, `pending` being the one that has begun. -/
def decodeFrom : Option Pending → List UInt8 → List Char
  | none, [] => []
  | some _, [] => [replacement]
  | none, b :: bs =>
    let (c, pending) := begin b.toNat
    c.toList ++ decodeFrom pending bs
  | some p, b :: bs =>
    let n := b.toNat
    if p.low ≤ n && n ≤ p.high then
      let bits := p.bits * 0x40 + n % 0x40
      if p.needed = 1 then Char.ofNat bits :: decodeFrom none bs
      else decodeFrom (some ⟨p.needed - 1, 0x80, 0xbf, bits⟩) bs
    else
      let (c, pending) := begin n
      replacement :: c.toList ++ decodeFrom pending bs

/-- Line ends of all kinds as newlines. -/
def unifyLines : List Char → List Char
  | '\x0d' :: '\n' :: cs => '\n' :: unifyLines cs
  | '\x0d' :: cs => '\n' :: unifyLines cs
  | c :: cs => c :: unifyLines cs
  | [] => []

/-- The text of a file. -/
def ofOctets (bytes : ByteArray) : String :=
  String.ofList (unifyLines (decodeFrom none bytes.toList))

end CaseDict.Text
