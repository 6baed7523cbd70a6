import CaseDict.Text.Hangul
import CaseDict.Text.NormalForm.CombiningClass
import CaseDict.Text.NormalForm.Decomposition
/-! # The normal form of names

Two names that look alike are the same name: `normalForm` replaces every character by the plain ones
that it stands for, puts the marks after a character in the order of their classes, and composes
what can be composed (Unicode 14, form NFKC). -/

namespace CaseDict.Text

namespace NormalForm

/-- The parts of a character, taken apart at most `steps` times. -/
def partsOf : (steps : Nat) → Nat → List Nat
  | 0, n => [n]
  | steps + 1, n =>
    if n < 0x80 then [n]
    else if Hangul.isSyllable n then Hangul.sounds n
    else match decompositions.find? (·.code == n) with
      | some d => d.parts.flatMap (partsOf steps)
      | none => [n]

/-- The parts of parts have no parts that could be taken apart again. -/
def depth : Nat := 3

/-- Puts a character before others, but a mark behind marks of lower classes. -/
def insertMark (n : Nat) : List Nat → List Nat
  | [] => [n]
  | m :: ms =>
    if 0 < combiningClass m && combiningClass m < combiningClass n then m :: insertMark n ms
    else n :: m :: ms

/-- The marks after each character, in the order of their classes. -/
def inOrder (codes : List Nat) : List Nat := codes.foldr insertMark []

/-- The character that two compose into. -/
def composed? (m n : Nat) : Option Nat :=
  (Hangul.composed? m n).or
    ((decompositions.find? fun d => d.composes && d.parts == [m, n]).map (·.code))

/-- Composes a character with what follows it. `passed` holds the marks between them, the last
first, which did not compose; a mark is reached over marks of lower classes only. -/
def composeFrom (n : Nat) (passed : List Nat) : List Nat → List Nat
  | [] => n :: passed.reverse
  | m :: ms =>
    let reached := passed.head?.all fun mark => combiningClass mark < combiningClass m
    match if reached then composed? n m else none with
    | some whole => composeFrom whole passed ms
    | none =>
      if combiningClass m = 0 then n :: passed.reverse ++ composeFrom m [] ms
      else composeFrom n (m :: passed) ms

def compose : List Nat → List Nat
  | [] => []
  | n :: ns => composeFrom n [] ns

end NormalForm

open NormalForm in
/-- The form that a text has in common with all that look like it. -/
def normalForm (s : String) : String :=
  let parts := s.toList.flatMap fun c => partsOf depth c.toNat
  String.ofList ((compose (inOrder parts)).map Char.ofNat)

end CaseDict.Text
