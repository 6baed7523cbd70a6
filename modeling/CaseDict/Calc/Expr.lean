import CaseDict.Number.Layout
import CaseDict.Text.Quoted
/-! # Expressions

The syntax trees of `#calc`. Arithmetic, comparisons, boolean operators, conditionals and calls are
kept as trees; of every other form of expression only its name is kept, which is all that the
message refusing it needs. -/

namespace CaseDict.Calc

inductive BinaryOp where
  | add | sub | mul | div | floorDiv | mod | pow
  | matMul | lShift | rShift | bitOr | bitXor | bitAnd
  deriving DecidableEq, Repr

inductive UnaryOp where
  | neg | pos | not | invert
  deriving DecidableEq, Repr

inductive Comparison where
  | eq | ne | lt | le | gt | ge
  | identical | distinct | member | notMember
  deriving DecidableEq, Repr

/-- The forms of expression that are recognised only to be refused. -/
inductive Form where
  | tuple | list | dict | set | listComp | setComp | dictComp | generatorExp
  | lambda | attributeOf | subscript | starred | namedExpr | formattedText
  | yield | yieldFrom | await
  deriving DecidableEq, Repr

namespace BinaryOp

/-- The name of an operator in messages. -/
def label : BinaryOp → String
  | add => "Add"
  | sub => "Sub"
  | mul => "Mult"
  | div => "Div"
  | floorDiv => "FloorDiv"
  | mod => "Mod"
  | pow => "Pow"
  | matMul => "MatMult"
  | lShift => "LShift"
  | rShift => "RShift"
  | bitOr => "BitOr"
  | bitXor => "BitXor"
  | bitAnd => "BitAnd"

end BinaryOp

namespace Comparison

def label : Comparison → String
  | eq => "Eq"
  | ne => "NotEq"
  | lt => "Lt"
  | le => "LtE"
  | gt => "Gt"
  | ge => "GtE"
  | identical => "Is"
  | distinct => "IsNot"
  | member => "In"
  | notMember => "NotIn"

end Comparison

namespace Form

def label : Form → String
  | tuple => "Tuple"
  | list => "List"
  | dict => "Dict"
  | set => "Set"
  | listComp => "ListComp"
  | setComp => "SetComp"
  | dictComp => "DictComp"
  | generatorExp => "GeneratorExp"
  | lambda => "Lambda"
  | attributeOf => "Attribute"
  | subscript => "Subscript"
  | starred => "Starred"
  | namedExpr => "NamedExpr"
  | formattedText => "JoinedStr"
  | yield => "Yield"
  | yieldFrom => "YieldFrom"
  | await => "Await"

end Form

/-- Literals. Texts are code points, since an escape may denote a lone surrogate. -/
inductive Literal where
  | bool (value : Bool)
  | int (value : Nat)
  | float (value : Float)
  | imaginary (value : Float)
  | text (codes : List Nat)
  | bytes (octets : List Nat)
  | none
  | ellipsis
  deriving DecidableEq

namespace Literal

/-- The factor of an imaginary literal: as any double, but a whole one without a point. -/
def imaginaryLayout : Number.Layout := ⟨-4, 15, false, 2, "nan", "inf"⟩

/-- One octet as it stands between the quotes `quote`. -/
def escapeOctet (quote n : Nat) : String :=
  if n = quote || n = 0x5c then String.ofList ['\\', Char.ofNat n]
  else if n = 0x09 then "\\t"
  else if n = 0x0a then "\\n"
  else if n = 0x0d then "\\r"
  else if 0x20 ≤ n && n < 0x7f then String.singleton (Char.ofNat n)
  else "\\x" ++ Text.hex 2 n

/-- The literal as messages show it. -/
def shown : Literal → String
  | bool b => if b then "True" else "False"
  | int n => toString n
  | float x => Number.Layout.write ⟨-4, 15, true, 2, "nan", "inf"⟩ x
  | imaginary x => imaginaryLayout.write x ++ "j"
  | text codes => Text.quoteCodes codes
  | bytes octets =>
    let quote := Text.quoteFor octets
    let mark := String.singleton (Char.ofNat quote)
    "b" ++ mark ++ String.join (octets.map (escapeOctet quote)) ++ mark
  | none => "None"
  | ellipsis => "Ellipsis"

end Literal

/-- An expression. -/
inductive Expr where
  | literal (value : Literal)
  | name (id : String)
  | binary (op : BinaryOp) (left right : Expr)
  | unary (op : UnaryOp) (operand : Expr)
  | all (operands : List Expr)
  | any (operands : List Expr)
  | compare (first : Expr) (rest : List (Comparison × Expr))
  | conditional (test thenValue elseValue : Expr)
  | call (function : Expr) (arguments : List Expr) (named : Bool)
  | other (form : Form)

end CaseDict.Calc
