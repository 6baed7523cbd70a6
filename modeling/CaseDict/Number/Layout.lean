import CaseDict.Number.Decimal
/-! # Writing doubles

The digits of a double are its shortest decimal; a `Layout` says how they are set out: where
positional notation gives way to an exponent, how wide the exponent is, and whether a whole number
keeps a point. -/

namespace CaseDict.Number

/-- The decisions of a format for doubles. The leading digit of a number written without an exponent
has a weight from `10 ^ leastPositional` to `10 ^ greatestPositional`. -/
structure Layout where
  leastPositional : Int
  greatestPositional : Int
  pointZero : Bool
  exponentWidth : Nat
  notANumber : String
  infinite : String

/-- Digits, with the zeros at their end taken into the exponent. -/
def trimZeros (digits : List Char) : List Char :=
  let kept := (digits.reverse.dropWhile (· == '0')).reverse
  if kept.isEmpty then ['0'] else kept

/-- An exponent with its sign, filled up with zeros. -/
def exponentText (width : Nat) (e : Int) : String :=
  let digits := toString e.natAbs
  (if e < 0 then "-" else "+") ++
    String.ofList (List.replicate (width - digits.length) '0') ++ digits

/-- A decimal set out, without sign. -/
def Layout.magnitude (f : Layout) (d : Decimal) : String :=
  let all := Nat.toDigits 10 d.digits
  let leading : Int := (all.length : Int) - 1 + d.exponent
  let digits := trimZeros all
  let text := String.ofList
  if d.digits = 0 then if f.pointZero then "0.0" else "0"
  else if leading < f.leastPositional || f.greatestPositional < leading then
    let mantissa := match digits with
      | first :: second :: more => text (first :: '.' :: second :: more)
      | _ => text digits
    mantissa ++ "e" ++ exponentText f.exponentWidth leading
  else if leading < 0 then
    "0." ++ text (List.replicate (-leading - 1).toNat '0' ++ digits)
  else
    let whole := leading.toNat + 1
    let padded := digits ++ List.replicate (whole - digits.length) '0'
    match padded.drop whole with
    | [] => text padded ++ if f.pointZero then ".0" else ""
    | fraction => text (padded.take whole) ++ "." ++ text fraction

/-- A double set out with its shortest digits. -/
def Layout.write (f : Layout) (x : Float) : String :=
  match dyadic? x with
  | some d =>
    (if d.negative then "-" else "") ++
      f.magnitude (if d.mantissa = 0 then ⟨0, 0⟩ else shortest x d)
  | none => if x.isNaN then f.notANumber else (if x < 0 then "-" else "") ++ f.infinite

end CaseDict.Number
