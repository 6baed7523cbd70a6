import CaseDict.Calc.Error
import CaseDict.Calc.Function
import CaseDict.Calc.Parser
import CaseDict.Token
/-! # Calculations

`evaluate` gives an expression its value. Arithmetic, comparisons, boolean operators, conditionals
and calls of the built-in functions are evaluated from left to right; the first form of expression
that is not arithmetic is refused, and the first operation without a value fails. -/

namespace CaseDict.Calc

/-- Why evaluation stops. -/
inductive Stop where
  | refused (why : Refusal)
  | noValue
  deriving DecidableEq

/-- The names that stand for values. -/
def constant? : String → Option Quantity
  | "pi" => some (.float 3.141592653589793)
  | "e" => some (.float 2.718281828459045)
  | "true" => some (.bool true)
  | "false" => some (.bool false)
  | _ => none

/-- The operators that are evaluated. -/
def BinaryOp.apply? : BinaryOp → Option (Quantity → Quantity → Option Quantity)
  | add => some Quantity.add
  | sub => some Quantity.sub
  | mul => some Quantity.mul
  | div => some Quantity.div
  | floorDiv => some Quantity.floorDiv
  | mod => some Quantity.mod
  | pow => some Quantity.pow
  | _ => none

def Comparison.apply? : Comparison → Option (Quantity → Quantity → Option Bool)
  | eq => some fun a b => some (a.equal b)
  | ne => some fun a b => some (!a.equal b)
  | lt => some (Quantity.ordered (· == .lt))
  | le => some (Quantity.ordered (· != .gt))
  | gt => some (Quantity.ordered (· == .gt))
  | ge => some (Quantity.ordered (· != .lt))
  | _ => none

def ofLiteral : Literal → Except Stop Quantity
  | .bool b => .ok (.bool b)
  | .int n => .ok (.int n)
  | .float x => .ok (.float x)
  | l => .error (.refused (.literal l))

/-- The value of an operation that may have none. -/
def valued {α : Type} : Option α → Except Stop α
  | some x => .ok x
  | none => .error .noValue

mutual

/-- The value of an expression. -/
def evaluate : Expr → Except Stop Quantity
  | .literal l => ofLiteral l
  | .name id =>
    match constant? id with
    | some q => .ok q
    | none => .error (.refused (.name id))
  | .binary op left right =>
    match op.apply? with
    | none => .error (.refused (.operator op))
    | some apply => do
      let a ← evaluate left
      let b ← evaluate right
      valued (apply a b)
  | .unary op operand => do
    let a ← evaluate operand
    match op with
    | .neg => valued a.neg
    | .pos => valued a.pos
    | .not => return .bool (!a.isTrue)
    | .invert => throw (.refused .invert)
  | .all operands => return .bool (← evaluateAll operands)
  | .any operands => return .bool (← evaluateAny operands)
  | .compare first rest => do
    let a ← evaluate first
    return .bool (← evaluateChain a rest)
  | .conditional test thenValue elseValue => do
    if (← evaluate test).isTrue then evaluate thenValue else evaluate elseValue
  | .call function arguments named =>
    match function with
    | .name id =>
      match Function.ofName? id with
      | none => .error (.refused .function)
      | some f =>
        if named then .error (.refused .namedArguments)
        else do valued (f.apply (← evaluateEach arguments))
    | _ => .error (.refused .function)
  | .other form => .error (.refused (.form form))

/-- All operands are true; those after a false one are not evaluated. -/
def evaluateAll : List Expr → Except Stop Bool
  | [] => .ok true
  | e :: es => do if (← evaluate e).isTrue then evaluateAll es else return false

/-- Some operand is true; those after a true one are not evaluated. -/
def evaluateAny : List Expr → Except Stop Bool
  | [] => .ok false
  | e :: es => do if (← evaluate e).isTrue then return true else evaluateAny es

/-- Each operand compares as written with the one before; the chain ends where one does not. -/
def evaluateChain (left : Quantity) : List (Comparison × Expr) → Except Stop Bool
  | [] => .ok true
  | (op, e) :: rest =>
    match op.apply? with
    | none => .error (.refused (.comparison op))
    | some apply => do
      let right ← evaluate e
      if ← valued (apply left right) then evaluateChain right rest else return false

def evaluateEach : List Expr → Except Stop (List Quantity)
  | [] => .ok []
  | e :: es => do return (← evaluate e) :: (← evaluateEach es)

end

/-- What a value is written as: truth values as words, real numbers as numbers. -/
def Quantity.symbol? : Quantity → Option Symbol
  | bool b => some (.word (if b then "true" else "false"))
  | int n => some (.number (.int n))
  | float x => some (.number (.float x))
  | complex _ => none

/-- The result of the expression in `source`. -/
def calculate (source : String) : Except CalcError Symbol :=
  match Expr.parse? (Text.trim source.toList) with
  | none => .error (.malformed source)
  | some e =>
    match evaluate e with
    | .error (.refused why) => .error (.refused why)
    | .error .noValue => .error (.noValue source)
    | .ok q =>
      match q.symbol? with
      | some s => .ok s
      | none => .error .notReal

end CaseDict.Calc
