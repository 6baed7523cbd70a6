import CaseDict.Number.Binary64
/-! # Decimals and doubles

A decimal `digits * 10 ^ exponent` has a nearest double (`Decimal.toFloat`), and a double has a
shortest decimal (`shortest`): the one with the fewest digits among those that read back as the same
double, and of these the nearest. -/

namespace CaseDict.Number

/-- A magnitude in decimal: `digits * 10 ^ exponent`. -/
structure Decimal where
  digits : Nat
  exponent : Int
  deriving DecidableEq, Repr

/-- How many decimal digits a natural has; zero has one. -/
def digitCount (n : Nat) : Nat := (Nat.toDigits 10 n).length

/-- The magnitude as a ratio of naturals. -/
def Decimal.ratio (d : Decimal) : Nat × Nat :=
  (d.digits * Nat.pow 10 d.exponent.toNat, Nat.pow 10 (-d.exponent).toNat)

/-- The nearest double. Magnitudes of 10^400 and above are infinite and those below 10^-400 are
zero whatever their digits, so no huge power is formed for them. -/
def Decimal.toFloat (negative : Bool) (d : Decimal) : Float :=
  let size := digitCount d.digits + d.exponent
  if d.digits = 0 || size < -400 then ofRatio negative 0 1
  else if 400 < size then
    Float.ofBits (UInt64.ofNat ((if negative then Nat.pow 2 63 else 0) + infinityBits))
  else
    let (num, den) := d.ratio
    ofRatio negative num den

/-- `10 ^ p ≤ num / den`. -/
def powTenLe (p : Int) (num den : Nat) : Bool :=
  Nat.pow 10 p.toNat * den ≤ num * Nat.pow 10 (-p).toNat

/-- The greatest `p` with `10 ^ p ≤ num / den`, for positive numbers. The estimate from the binary
logarithm is off by one at most. -/
def log10Ratio (num den : Nat) : Int :=
  let estimate := Int.fdiv (log2Ratio num den * 1233) 4096
  if powTenLe (estimate + 1) num den then estimate + 1
  else if powTenLe estimate num den then estimate
  else estimate - 1

/-- The two decimals next to `num / den` on the grid of step `10 ^ e`, the nearer first; of two
equally near the even one. -/
def neighbours (num den : Nat) (e : Int) : List Decimal :=
  let n := num * Nat.pow 10 (-e).toNat
  let d := den * Nat.pow 10 e.toNat
  let q := n / d
  let r := n % d
  let below : Decimal := ⟨q, e⟩
  let above : Decimal := ⟨q + 1, e⟩
  if 2 * r < d || (2 * r == d && q % 2 == 0) then [below, above] else [above, below]

/-- A finite double written out in full. -/
def Dyadic.decimal (d : Dyadic) : Decimal :=
  if d.exponent < 0 then ⟨d.mantissa * Nat.pow 5 (-d.exponent).toNat, d.exponent⟩
  else ⟨d.mantissa * Nat.pow 2 d.exponent.toNat, 0⟩

/-- The decimal with the fewest digits that reads back as the positive double `x` of value `d`, and
of several the nearest. Grids of 1, 2, … 17 digits are tried in turn; every double has a neighbour
on the last of them. -/
def shortest (x : Float) (d : Dyadic) : Decimal :=
  let (num, den) := d.ratio
  let p := log10Ratio num den
  let hit := (List.range 17).findSome? fun (n : Nat) =>
    (neighbours num den (p - n)).find? fun c => c.digits ≠ 0 && c.toFloat d.negative = x
  hit.getD d.decimal

end CaseDict.Number
