import CaseDict.Calc.Expr
/-! # Why a calculation fails

A text may be no expression at all, an expression may use a form that is not arithmetic, and an
arithmetic one may have no value. -/

namespace CaseDict.Calc

/-- A form of expression that is not evaluated. -/
inductive Refusal where
  | literal (value : Literal)
  | name (id : String)
  | operator (op : BinaryOp)
  | invert
  | comparison (op : Comparison)
  | form (form : Form)
  | function
  | namedArguments
  deriving DecidableEq

/-- The causes of a failed calculation; `source` is the expression's text. -/
inductive CalcError where
  | malformed (source : String)
  | refused (why : Refusal)
  | noValue (source : String)
  | notReal
  deriving DecidableEq

def Refusal.message : Refusal → String
  | literal l => "unsupported literal " ++ l.shown
  | name id => "unknown name " ++ Text.quote id
  | operator op => "unsupported operator " ++ op.label
  | invert => "unsupported unary operator Invert"
  | comparison op => "unsupported comparison " ++ op.label
  | form f => "unsupported syntax: " ++ f.label
  | function => "only the built-in math functions may be called"
  | namedArguments => "keyword arguments are not supported"

def CalcError.message : CalcError → String
  | malformed source => "invalid expression " ++ Text.quote source
  | refused why => why.message
  | noValue source => "cannot evaluate " ++ Text.quote source
  | notReal => "expression produced a non-numeric value"

end CaseDict.Calc
