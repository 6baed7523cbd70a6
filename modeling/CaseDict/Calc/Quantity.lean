import CaseDict.Number.Decimal
/-! # Quantities

The values of `#calc`: truth values, integers of any size, doubles, and the complex numbers that
powers of negative numbers lead to. A truth value counts as zero or one. Operations fail (`none`)
where arithmetic has no value: division by zero, a result beyond the doubles, an order asked of
complex numbers. -/

namespace CaseDict.Calc

/-- A complex number. -/
structure Complex where
  re : Float
  im : Float
  deriving DecidableEq

/-- A value of an expression. -/
inductive Quantity where
  | bool (value : Bool)
  | int (value : Int)
  | float (value : Float)
  | complex (value : Complex)
  deriving DecidableEq

open Number

/-! ### Doubles -/

def signBit (x : Float) : Bool := x.toBits >>> 63 == 1

/-- The magnitude of `x` with the sign of `y`. -/
def withSignOf (x y : Float) : Float := if signBit x == signBit y then x else -x

def zeroLike (negative : Bool) : Float := if negative then -0.0 else 0.0

def infinity : Float := Float.ofBits 0x7ff0000000000000

def notANumber : Float := Float.ofBits 0x7ff8000000000000

/-- The remainder of a division that truncates, exactly; it has the sign of `x`. -/
def truncatedRemainder (x y : Float) : Float :=
  match dyadic? x, dyadic? y with
  | some a, some b =>
    if b.mantissa = 0 then notANumber
    else
      let e := min a.exponent b.exponent
      let r := (a.mantissa * Nat.pow 2 (a.exponent - e).toNat) %
        (b.mantissa * Nat.pow 2 (b.exponent - e).toNat)
      ofRatio a.negative (r * Nat.pow 2 e.toNat) (Nat.pow 2 (-e).toNat)
  | some _, none => if y.isNaN then y else x
  | none, _ => notANumber

/-- The double is an odd integer. -/
def isOdd (x : Float) : Bool := truncatedRemainder x.abs 2.0 == 1.0

/-- Remainder with the sign of the divisor. -/
def floatMod (x y : Float) : Option Float :=
  if y == 0.0 then none
  else
    let r := truncatedRemainder x y
    if r == 0.0 then some (zeroLike (signBit y))
    else some (if (y < 0.0) != (r < 0.0) then r + y else r)

/-- Quotient rounded down. -/
def floatFloorDiv (x y : Float) : Option Float :=
  if y == 0.0 then none
  else
    let r := truncatedRemainder x y
    let q := (x - r) / y
    let q := if r != 0.0 && (y < 0.0) != (r < 0.0) then q - 1.0 else q
    if q == 0.0 then some (withSignOf 0.0 (x / y))
    else
      let below := q.floor
      some (if q - below > 0.5 then below + 1.0 else below)

/-- The distance of a point from the origin, for coordinates `y ≤ x` whose squares are doubles: the
root of the sum of the squares, and one step that takes away most of its error. -/
def correctedRoot (x y : Float) : Float :=
  let h := (x * x + y * y).sqrt
  let excess :=
    if h ≤ 2.0 * y then
      let d := h - y
      x * (2.0 * d - x) + (d - 2.0 * (x - y)) * d
    else
      let d := h - x
      2.0 * d * (x - 2.0 * y) + ((4.0 * d - y) * y + d * d)
  h - excess / (2.0 * h)

/-- The distance of a point from the origin. Large and small coordinates are scaled, and one that is
too small beside the other counts only for the rounding. -/
def hypotenuse (x y : Float) : Float :=
  if x.isInf || y.isInf then infinity
  else if x.isNaN || y.isNaN then notANumber
  else
    let (x, y) := if x.abs < y.abs then (y.abs, x.abs) else (x.abs, y.abs)
    if y.scaleB 54 ≤ x then x + y
    else if Float.scaleB 1.0 511 < x then
      (correctedRoot (x.scaleB (-600)) (y.scaleB (-600))).scaleB 600
    else if y < Float.scaleB 1.0 (-459) then
      (correctedRoot (x.scaleB 600) (y.scaleB 600)).scaleB (-600)
    else correctedRoot x y

/-! ### Complex numbers -/

namespace Complex

def ofReal (x : Float) : Complex := ⟨x, 0.0⟩

def add (a b : Complex) : Complex := ⟨a.re + b.re, a.im + b.im⟩

def sub (a b : Complex) : Complex := ⟨a.re - b.re, a.im - b.im⟩

def neg (a : Complex) : Complex := ⟨-a.re, -a.im⟩

def mul (a b : Complex) : Complex := ⟨a.re * b.re - a.im * b.im, a.re * b.im + a.im * b.re⟩

/-- Division that scales by the larger part of the divisor. -/
def div? (a b : Complex) : Option Complex :=
  if b.im.abs ≤ b.re.abs then
    if b.re == 0.0 then none
    else
      let ratio := b.im / b.re
      let denominator := b.re + b.im * ratio
      some ⟨(a.re + a.im * ratio) / denominator, (a.im - a.re * ratio) / denominator⟩
  else if b.re.abs ≤ b.im.abs then
    let ratio := b.re / b.im
    let denominator := b.re * ratio + b.im
    some ⟨(a.re * ratio + a.im) / denominator, (a.im * ratio - a.re) / denominator⟩
  else some ⟨notANumber, notANumber⟩

/-- Powers by repeated squaring, over the bits of the exponent from the lowest. -/
def powNat (base : Complex) (n : Nat) : Complex :=
  go (n.log2 + 1) n base ⟨1.0, 0.0⟩
where
  go : Nat → Nat → Complex → Complex → Complex
    | 0, _, _, result => result
    | bits + 1, n, square, result =>
      go bits (n / 2) (square.mul square) (if n % 2 = 1 then result.mul square else result)

/-- Powers through logarithm and angle. An infinite angle has no cosine. -/
def powPolar? (a b : Complex) : Option Complex :=
  if b.re == 0.0 && b.im == 0.0 then some ⟨1.0, 0.0⟩
  else if a.re == 0.0 && a.im == 0.0 then
    if b.im != 0.0 || b.re < 0.0 then none else some ⟨0.0, 0.0⟩
  else
    let size := hypotenuse a.re a.im
    let angle := Float.atan2 a.im a.re
    let length := Float.pow size b.re
    let phase := angle * b.re
    let (length, phase) := if b.im != 0.0 then
        (length / Float.exp (angle * b.im), phase + b.im * Float.log size)
      else (length, phase)
    if phase.isInf then none
    else some ⟨length * Float.cos phase, length * Float.sin phase⟩

/-- Powers; small integer exponents are multiplied out. -/
def pow? (a b : Complex) : Option Complex := do
  let small := b.im == 0.0 && b.re == b.re.floor && b.re.abs ≤ 100.0
  let result ← if small then
      let n := (nearest? b.re).getD 0
      if 0 < n then some (powNat a n.toNat)
      else div? ⟨1.0, 0.0⟩ (powNat a (-n).toNat)
    else powPolar? a b
  guard (!result.re.isInf && !result.im.isInf)
  return result

end Complex

/-- Powers of doubles. A negative base with a fractional exponent has a complex power. -/
def floatPow (x y : Float) : Option Quantity :=
  let real (r : Float) : Option Quantity := some (.float r)
  if y == 0.0 then real 1.0
  else if x.isNaN then real x
  else if y.isNaN then real (if x == 1.0 then 1.0 else y)
  else if y.isInf then
    let size := x.abs
    real (if size == 1.0 then 1.0 else if (0.0 < y) == (1.0 < size) then y.abs else 0.0)
  else if x.isInf then
    if 0.0 < y then real (if isOdd y then x else x.abs)
    else real (if isOdd y then withSignOf 0.0 x else 0.0)
  else if x == 0.0 then
    if y < 0.0 then none else real (if isOdd y then x else 0.0)
  else if x < 0.0 && y != y.floor then
    ((Complex.ofReal x).pow? (Complex.ofReal y)).map .complex
  else
    let negative := x < 0.0 && isOdd y
    let size := if x < 0.0 then -x else x
    let r := if size == 1.0 then 1.0 else Float.pow size y
    if r.isInf then none else real (if negative then -r else r)

/-! ### Operations on quantities -/

namespace Quantity

/-- Truth values and integers. -/
def int? : Quantity → Option Int
  | bool b => some (if b then 1 else 0)
  | int n => some n
  | _ => none

/-- Real quantities as doubles; huge integers have none. -/
def float? : Quantity → Option Float
  | float x => some x
  | complex _ => none
  | q => q.int?.bind ofInt?

def complex? : Quantity → Option Complex
  | complex z => some z
  | q => q.float?.map Complex.ofReal

def isComplex : Quantity → Bool
  | complex _ => true
  | _ => false

/-- The quantity counts as true. -/
def isTrue : Quantity → Bool
  | bool b => b
  | int n => n ≠ 0
  | float x => x != 0.0
  | complex z => z.re != 0.0 || z.im != 0.0

/-- Applies an operation in the widest kind of number that the operands need. -/
def lift (onInt : Int → Int → Option Quantity) (onFloat : Float → Float → Option Quantity)
    (onComplex : Complex → Complex → Option Quantity) (a b : Quantity) : Option Quantity :=
  match a.int?, b.int? with
  | some m, some n => onInt m n
  | _, _ =>
    if a.isComplex || b.isComplex then do onComplex (← a.complex?) (← b.complex?)
    else do onFloat (← a.float?) (← b.float?)

def add : Quantity → Quantity → Option Quantity :=
  lift (fun m n => some (int (m + n))) (fun x y => some (float (x + y)))
    fun z w => some (complex (z.add w))

def sub : Quantity → Quantity → Option Quantity :=
  lift (fun m n => some (int (m - n))) (fun x y => some (float (x - y)))
    fun z w => some (complex (z.sub w))

def mul : Quantity → Quantity → Option Quantity :=
  lift (fun m n => some (int (m * n))) (fun x y => some (float (x * y)))
    fun z w => some (complex (z.mul w))

/-- The quotient of integers as the nearest double. -/
def intDiv (m n : Int) : Option Quantity :=
  if n = 0 then none
  else (ofRatio? ((m < 0) != (n < 0)) m.natAbs n.natAbs).map float

def div : Quantity → Quantity → Option Quantity :=
  lift intDiv (fun x y => if y == 0.0 then none else some (float (x / y)))
    fun z w => (z.div? w).map complex

def floorDiv : Quantity → Quantity → Option Quantity :=
  lift (fun m n => if n = 0 then none else some (int (Int.fdiv m n)))
    (fun x y => (floatFloorDiv x y).map float) fun _ _ => none

def mod : Quantity → Quantity → Option Quantity :=
  lift (fun m n => if n = 0 then none else some (int (Int.fmod m n)))
    (fun x y => (floatMod x y).map float) fun _ _ => none

/-- Powers of an integer by squaring, for exponents of any size. -/
def powInt (m : Int) (n : Nat) : Int :=
  if n = 0 then 1
  else
    let root := powInt m (n / 2)
    if n % 2 = 0 then root * root else root * root * m
termination_by n
decreasing_by exact Nat.div_lt_self (Nat.pos_of_ne_zero ‹_›) Nat.one_lt_two

/-- Integers stay integers unless the exponent is negative. -/
def pow : Quantity → Quantity → Option Quantity :=
  lift
    (fun m n =>
      if 0 ≤ n then some (int (powInt m n.toNat)) else do floatPow (← ofInt? m) (← ofInt? n))
    floatPow fun z w => (z.pow? w).map complex

def neg : Quantity → Option Quantity
  | float x => some (float (-x))
  | complex z => some (complex z.neg)
  | q => q.int?.map fun n => int (-n)

def pos : Quantity → Option Quantity
  | bool b => some (int (if b then 1 else 0))
  | q => some q

/-- The order of real quantities, by their exact values; none if one is not a number. -/
def order? : Quantity → Quantity → Option Ordering
  | float x, float y =>
    if x < y then some .lt else if y < x then some .gt else if x == y then some .eq else none
  | float x, b => b.int?.bind fun n => (compareInt n x).map Ordering.swap
  | a, float y => a.int?.bind fun m => compareInt m y
  | a, b => do return compare (← a.int?) (← b.int?)

/-- Equality; a complex number equals a real one only if it has no imaginary part. -/
def equal : Quantity → Quantity → Bool
  | complex z, complex w => z.re == w.re && z.im == w.im
  | complex z, b | b, complex z => z.im == 0.0 && order? (float z.re) b == some .eq
  | a, b => order? a b == some .eq

/-- Compares real quantities; complex ones have no order. -/
def ordered (holds : Ordering → Bool) (a b : Quantity) : Option Bool :=
  if a.isComplex || b.isComplex then none else some ((order? a b).any holds)

end Quantity

end CaseDict.Calc
