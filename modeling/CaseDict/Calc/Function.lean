import CaseDict.Calc.Quantity
/-! # Built-in functions

The functions that an expression may call, each with the arguments it takes and the places where it
has no value. -/

namespace CaseDict.Calc

open Number

/-- The functions by name. -/
inductive Function where
  | sin | cos | tan | asin | acos | atan | atan2
  | sqrt | exp | log | log10 | pow
  | abs | min | max | floor | ceil | round
  deriving DecidableEq, Repr

namespace Function

def ofName? : String → Option Function
  | "sin" => some sin
  | "cos" => some cos
  | "tan" => some tan
  | "asin" => some asin
  | "acos" => some acos
  | "atan" => some atan
  | "atan2" => some atan2
  | "sqrt" => some sqrt
  | "exp" => some exp
  | "log" => some log
  | "log10" => some log10
  | "pow" => some pow
  | "abs" => some abs
  | "min" => some min
  | "max" => some max
  | "floor" => some floor
  | "ceil" => some ceil
  | "round" => some round
  | _ => none

/-- A function of one double: it fails outside its domain (a result that is not a number) and where
a finite argument has an infinite result. -/
def real (f : Float → Float) (q : Quantity) : Option Quantity := do
  let x ← q.float?
  let r := f x
  guard (!(r.isNaN && !x.isNaN) && !(r.isInf && x.isFinite))
  return .float r

/-- The natural logarithm, of integers of any size: `n = m * 2 ^ e` with `m` between a half and
one. -/
def logOf (f : Float → Float) (q : Quantity) : Option Float := do
  match q.int?, q with
  | some n, _ =>
    guard (0 < n)
    match ofInt? n with
    | some x => return f x
    | none =>
      let e := n.toNat.log2 + 1
      let m := ofRatio false n.toNat (Nat.pow 2 e)
      let (m, e) := if m == 1.0 then (0.5, e + 1) else (m, e)
      return f m + f 2.0 * Float.ofNat e
  | none, .float x =>
    guard (x.isNaN || 0.0 < x)
    return f x
  | none, _ => none

/-- The logarithm to any base. -/
def logBase (q base : Quantity) : Option Quantity := do
  let x ← logOf Float.log q
  let y ← logOf Float.log base
  guard (y != 0.0)
  return .float (x / y)

/-- Powers of doubles that stay doubles. -/
def realPow (a b : Quantity) : Option Quantity := do
  let x ← a.float?
  let y ← b.float?
  if x.isFinite && y.isFinite then
    let r := Float.pow x y
    guard r.isFinite
    return .float r
  else if x.isNaN then return .float (if y == 0.0 then 1.0 else x)
  else if y.isNaN then return .float (if x == 1.0 then 1.0 else y)
  else if x.isInf then
    let odd := y.isFinite && isOdd y
    if 0.0 < y then return .float (if odd then x else x.abs)
    else if y == 0.0 then return .float 1.0
    else return .float (if odd then withSignOf 0.0 x else 0.0)
  else
    let size := x.abs
    if size == 1.0 then return .float 1.0
    else if 0.0 < y && 1.0 < size then return .float y
    else if y < 0.0 && size < 1.0 then return .float (-y)
    else return .float 0.0

def absolute : Quantity → Option Quantity
  | .float x => some (.float x.abs)
  | .complex z => do
    let r := hypotenuse z.re z.im
    guard (!(r.isInf && z.re.isFinite && z.im.isFinite))
    return .float r
  | q => q.int?.map fun n => .int n.natAbs

/-- A real quantity as an integer, by a rounding of doubles. -/
def toInt (rounding : Float → Option Int) : Quantity → Option Quantity
  | .float x => (rounding x).map .int
  | q => q.int?.map .int

/-- The argument that `better` prefers to all before it; at least two are compared. -/
def extreme (better : Ordering → Bool) : List Quantity → Option Quantity
  | [] | [_] => none
  | q :: qs => qs.foldlM (fun best q => do
      return if ← Quantity.ordered better q best then q else best) q

/-- An integer rounded to a multiple of `10 ^ n`. -/
def roundInt (m : Int) (n : Nat) : Int :=
  let rounded : Int := roundDiv m.natAbs (Nat.pow 10 n) * Nat.pow 10 n
  if m < 0 then -rounded else rounded

/-- A double rounded to `places` decimal places, exactly and then to the nearest double. Beyond 323
places nothing changes, and 308 places before the point leave nothing. -/
def roundFloat (x : Float) (places : Int) : Option Float :=
  match dyadic? x with
  | none => some x
  | some d =>
    if 323 < places then some x
    else if places < -308 then some (0.0 * x)
    else
      let (num, den) := d.ratio
      let up := Nat.pow 10 places.toNat
      let down := Nat.pow 10 (-places).toNat
      ofRatio? d.negative (roundDiv (num * up) (den * down) * down) up

def roundTo (q places : Quantity) : Option Quantity := do
  let n ← places.int?
  match q with
  | .float x => return .float (← roundFloat x n)
  | q =>
    let m ← q.int?
    return .int (if 0 ≤ n then m else roundInt m (-n).toNat)

/-- Calls a function; a wrong number of arguments has no value. -/
def apply : Function → List Quantity → Option Quantity
  | sin, [q] => real Float.sin q
  | cos, [q] => real Float.cos q
  | tan, [q] => real Float.tan q
  | asin, [q] => real Float.asin q
  | acos, [q] => real Float.acos q
  | atan, [q] => real Float.atan q
  | atan2, [p, q] => do return .float (Float.atan2 (← p.float?) (← q.float?))
  | sqrt, [q] => real Float.sqrt q
  | exp, [q] => real Float.exp q
  | log, [q] => (logOf Float.log q).map .float
  | log, [q, base] => logBase q base
  | log10, [q] => (logOf Float.log10 q).map .float
  | pow, [p, q] => realPow p q
  | abs, [q] => absolute q
  | min, qs => extreme (· == .lt) qs
  | max, qs => extreme (· == .gt) qs
  | floor, [q] => toInt floor? q
  | ceil, [q] => toInt ceil? q
  | round, [q] => toInt nearest? q
  | round, [q, places] => roundTo q places
  | _, _ => none

end Function

end CaseDict.Calc
