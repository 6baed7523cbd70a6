/-! # Doubles as exact numbers

The bridge between `Float` and exact arithmetic: a finite double is a natural mantissa times a power
of two (`dyadic?`), and a ratio of naturals has a nearest double (`ofRatio?`, ties to the even
mantissa), or none when it rounds beyond the largest finite one. -/

namespace CaseDict.Number

/-- A finite double: `mantissa * 2 ^ exponent`, with its sign (zero has one too). -/
structure Dyadic where
  negative : Bool
  mantissa : Nat
  exponent : Int
  deriving DecidableEq, Repr

/-- The exact value of a double, unless it is infinite or not a number. -/
def dyadic? (x : Float) : Option Dyadic :=
  let bits : Nat := x.toBits.toNat
  let negative := bits / Nat.pow 2 63 == 1
  let biased : Nat := bits / Nat.pow 2 52 % 2048
  let fraction : Nat := bits % Nat.pow 2 52
  if biased = 2047 then none
  else if biased = 0 then some ⟨negative, fraction, -1074⟩
  else some ⟨negative, fraction + Nat.pow 2 52, biased - 1075⟩

/-- The magnitude as a ratio of naturals. -/
def Dyadic.ratio (d : Dyadic) : Nat × Nat :=
  (d.mantissa * Nat.pow 2 d.exponent.toNat, Nat.pow 2 (-d.exponent).toNat)

/-- The value as a signed ratio. -/
def Dyadic.signedRatio (d : Dyadic) : Int × Nat :=
  let (num, den) := d.ratio
  (if d.negative then -(num : Int) else num, den)

/-- The nearest natural to `num / den`, a half going to the even neighbour. -/
def roundDiv (num den : Nat) : Nat :=
  let q := num / den
  let r := num % den
  if den < 2 * r || (den == 2 * r && q % 2 == 1) then q + 1 else q

/-- The greatest `k` with `2 ^ k ≤ num / den`, for positive numbers. -/
def log2Ratio (num den : Nat) : Int :=
  let k : Int := (num.log2 : Int) - den.log2
  if num * Nat.pow 2 (-k).toNat < den * Nat.pow 2 k.toNat then k - 1 else k

/-- The bits of infinity. -/
def infinityBits : Nat := 2047 * Nat.pow 2 52

/-- The bits of the double nearest to a positive ratio, at most those of infinity. The exponent
field and the mantissa are added, so that a mantissa rounded up to the next power of two carries. -/
def magnitudeBits (num den : Nat) : Nat :=
  let q := max (log2Ratio num den - 52) (-1074)
  let m := roundDiv (num * Nat.pow 2 (-q).toNat) (den * Nat.pow 2 q.toNat)
  min ((q + 1074).toNat * Nat.pow 2 52 + m) infinityBits

/-- The double of the given sign nearest to `num / den`; infinite beyond the finite ones. -/
def ofRatio (negative : Bool) (num den : Nat) : Float :=
  let magnitude := if num = 0 then 0 else magnitudeBits num den
  Float.ofBits (UInt64.ofNat ((if negative then Nat.pow 2 63 else 0) + magnitude))

/-- The finite double nearest to `num / den`, if there is one. -/
def ofRatio? (negative : Bool) (num den : Nat) : Option Float :=
  let x := ofRatio negative num den
  if x.isFinite then some x else none

/-- The double nearest to an integer, if it is finite. -/
def ofInt? (n : Int) : Option Float := ofRatio? (n < 0) n.natAbs 1

/-- The order of an integer and a double, exactly; none when the double is not a number. -/
def compareInt (n : Int) (x : Float) : Option Ordering :=
  match dyadic? x with
  | some d =>
    let (num, den) := d.signedRatio
    some (compare (n * den) num)
  | none => if x.isNaN then none else some (if x < 0 then .gt else .lt)

/-- The largest integer not above a finite double. -/
def floor? (x : Float) : Option Int :=
  (dyadic? x).map fun d => let (num, den) := d.signedRatio; Int.fdiv num den

/-- The least integer not below a finite double. -/
def ceil? (x : Float) : Option Int :=
  (dyadic? x).map fun d => let (num, den) := d.signedRatio; -Int.fdiv (-num) den

/-- The integer nearest to a finite double, a half going to the even neighbour. -/
def nearest? (x : Float) : Option Int :=
  (dyadic? x).map fun d =>
    let (num, den) := d.ratio
    let n := roundDiv num den
    if d.negative then -(n : Int) else n

end CaseDict.Number
