import CaseDict.Number.Layout
import CaseDict.Text.Digit
/-! # Numbers

A number is an integer of any size or a double. `Number.read` says which words are numbers: an
optional sign and digits for an integer; with a point or an exponent a double. `Number.text` writes
a number so that it reads back as itself. -/

namespace CaseDict

/-- An integer or a double. -/
inductive Number where
  | int (value : Int)
  | float (value : Float)
  deriving DecidableEq

namespace Number

/-- Doubles are positional from 0.0001 to below 10^16, a whole one ends in `.0`, and an exponent has
two digits at least. -/
def layout : Layout := ⟨-4, 15, true, 2, "nan", "inf"⟩

/-- The text of a number. -/
def text : Number → String
  | .int n => toString n
  | .float x => layout.write x

/-- A numeral may have this many digits, and so may an integer that is written. -/
def digitLimit : Nat := 4300

/-- The integer can be written within the limit. -/
def writable : Number → Bool
  | .int n => digitCount n.natAbs ≤ digitLimit
  | .float _ => true

def negate : Number → Number
  | .int n => .int (-n)
  | .float x => .float (-x)

/-- The number differs from zero. -/
def isNonzero : Number → Bool
  | .int n => n ≠ 0
  | .float x => x != 0

/-- Both have the same value; an integer may equal a double, and what is not a number equals
nothing. -/
def sameValue : Number → Number → Bool
  | .int a, .int b => a == b
  | .float a, .float b => a == b
  | .int a, .float b | .float b, .int a => compareInt a b == some .eq

/-! ### Reading numerals -/

/-- The value of digits, most significant first, read after `n`. -/
def digitsValue (n : Nat) (cs : List Char) : Nat :=
  cs.foldl (fun acc c => acc * 10 + (Text.digitValue? c).getD 0) n

/-- An optional sign: whether it is a minus, and what follows. -/
def splitSign : List Char → Bool × List Char
  | '-' :: cs => (true, cs)
  | '+' :: cs => (false, cs)
  | cs => (false, cs)

/-- What stands after the mantissa of a double: nothing, or `e` and a signed numeral. -/
def readExponent? : List Char → Option Int
  | [] => some 0
  | 'e' :: cs | 'E' :: cs =>
    let (negative, digits) := splitSign cs
    if digits ≠ [] && digits.all Text.isDigit then
      let n : Int := digitsValue 0 digits
      some (if negative then -n else n)
    else none
  | _ => none

/-- A word read as a number. A double has digits before or after a point, or an exponent. -/
inductive Reading where
  | number (n : Number)
  | tooLong
  | noNumber
  deriving DecidableEq

def read (word : List Char) : Reading :=
  let (negative, body) := splitSign word
  let whole := body.takeWhile Text.isDigit
  let afterWhole := body.dropWhile Text.isDigit
  if whole ≠ [] && afterWhole.isEmpty then
    if digitLimit < whole.length then .tooLong
    else
      let n : Int := digitsValue 0 whole
      .number (.int (if negative then -n else n))
  else
    let (fraction, afterMantissa) := match afterWhole with
      | '.' :: cs => (cs.takeWhile Text.isDigit, cs.dropWhile Text.isDigit)
      | cs => ([], cs)
    if whole.isEmpty && fraction.isEmpty then .noNumber
    else match readExponent? afterMantissa with
      | none => .noNumber
      | some e =>
        let d : Decimal := ⟨digitsValue (digitsValue 0 whole) fraction, e - fraction.length⟩
        .number (.float (d.toFloat negative))

end Number

end CaseDict
