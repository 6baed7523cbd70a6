import CaseDict.Calc
/-! # Arithmetic formulas

The expressions that are built from operands with arithmetic operators and parentheses, each where
its operator binds (`Formula`). A formula is written as a list of marks, its operands and operators
from left to right, and it has a value that comes of the values of its operands. The value is that
of the expression for which the formula stands (`Formula.evaluate_expr`). -/

namespace CaseDict.Calc

/-- How tightly the operators of a formula bind. -/
inductive Tier where
  | atom | factor | term | sum

/-- The operators between factors. -/
inductive Scaling where
  | mul | div | floorDiv | mod

/-- The operators between terms. -/
inductive Shift where
  | add | sub

namespace Scaling

def sign : Scaling → String
  | mul => "*"
  | div => "/"
  | floorDiv => "//"
  | mod => "%"

def op : Scaling → BinaryOp
  | mul => .mul
  | div => .div
  | floorDiv => .floorDiv
  | mod => .mod

def apply : Scaling → Quantity → Quantity → Option Quantity
  | mul => Quantity.mul
  | div => Quantity.div
  | floorDiv => Quantity.floorDiv
  | mod => Quantity.mod

theorem apply?_op (s : Scaling) : s.op.apply? = some s.apply := by cases s <;> rfl

end Scaling

namespace Shift

def sign : Shift → String
  | add => "+"
  | sub => "-"

def op : Shift → BinaryOp
  | add => .add
  | sub => .sub

def apply : Shift → Quantity → Quantity → Option Quantity
  | add => Quantity.add
  | sub => Quantity.sub

theorem apply?_op (s : Shift) : s.op.apply? = some s.apply := by cases s <;> rfl

end Shift

/-- An arithmetic formula of a tier. A sign before a power is the sign of the power. -/
inductive Formula (α : Type) : Tier → Type where
  | operand (a : α) : Formula α .atom
  | group (e : Formula α .sum) : Formula α .atom
  | bare (a : Formula α .atom) : Formula α .factor
  | power (base : Formula α .atom) (exponent : Formula α .factor) : Formula α .factor
  | negative (e : Formula α .factor) : Formula α .factor
  | factor (e : Formula α .factor) : Formula α .term
  | product (s : Scaling) (left : Formula α .term) (right : Formula α .factor) : Formula α .term
  | term (e : Formula α .term) : Formula α .sum
  | sum (s : Shift) (left : Formula α .sum) (right : Formula α .term) : Formula α .sum

/-- What is written of a formula. -/
inductive Mark (α : Type) where
  | operand (a : α)
  | sign (s : String)

namespace Formula

variable {α : Type} {t : Tier}

/-- The operands and operators from left to right. -/
def marks {t : Tier} : Formula α t → List (Mark α)
  | operand a => [.operand a]
  | group e => .sign "(" :: (e.marks ++ [.sign ")"])
  | bare a => a.marks
  | power b e => b.marks ++ .sign "**" :: e.marks
  | negative e => .sign "-" :: e.marks
  | factor e => e.marks
  | product s l r => l.marks ++ .sign s.sign :: r.marks
  | term e => e.marks
  | sum s l r => l.marks ++ .sign s.sign :: r.marks

/-- How deep parentheses nest. -/
def depth {t : Tier} : Formula α t → Nat
  | operand _ => 0
  | group e => e.depth + 1
  | bare a => a.depth
  | power b e => max b.depth e.depth
  | negative e => e.depth
  | factor e => e.depth
  | product _ l r => max l.depth r.depth
  | term e => e.depth
  | sum _ l r => max l.depth r.depth

/-- The operand that the formula consists of. -/
def operand? : Formula α .atom → Option α
  | operand a => some a
  | group _ => none

/-- The operands that stand directly before a power sign. -/
def bases {t : Tier} : Formula α t → List α
  | operand _ => []
  | group e => e.bases
  | bare a => a.bases
  | power b e => b.operand?.toList ++ b.bases ++ e.bases
  | negative e => e.bases
  | factor e => e.bases
  | product _ l r => l.bases ++ r.bases
  | term e => e.bases
  | sum _ l r => l.bases ++ r.bases

/-- The value of a formula whose operands have the values `of`. The base of a power may be an operand
with a sign of its own, before a magnitude; then the sign is that of the power. -/
def valueWith (of : α → Except Stop Quantity) (magnitude? : α → Option Quantity) {t : Tier} :
    Formula α t → Except Stop Quantity
  | operand a => of a
  | group e => e.valueWith of magnitude?
  | bare a => a.valueWith of magnitude?
  | power b e =>
    match b.operand?.bind magnitude? with
    | some m => do
      let n ← e.valueWith of magnitude?
      valued (← valued (m.pow n)).neg
    | none => do
      let m ← b.valueWith of magnitude?
      let n ← e.valueWith of magnitude?
      valued (m.pow n)
  | negative e => do valued (← e.valueWith of magnitude?).neg
  | factor e => e.valueWith of magnitude?
  | product s l r => do
    let m ← l.valueWith of magnitude?
    let n ← r.valueWith of magnitude?
    valued (s.apply m n)
  | term e => e.valueWith of magnitude?
  | sum s l r => do
    let m ← l.valueWith of magnitude?
    let n ← r.valueWith of magnitude?
    valued (s.apply m n)

/-- The value of a formula, each of whose operands counts as one value. -/
def value (of : α → Except Stop Quantity) (e : Formula α t) : Except Stop Quantity :=
  e.valueWith of fun _ => none

/-- Without such bases the formula has its value. -/
theorem valueWith_eq (of : α → Except Stop Quantity) {magnitude? : α → Option Quantity}
    (e : Formula α t) (h : ∀ a ∈ e.bases, magnitude? a = none) :
    e.valueWith of magnitude? = e.value of := by
  unfold value
  induction e with
  | operand a => rfl
  | group e ih | bare e ih | factor e ih | term e ih => exact ih h
  | negative e ih => rw [valueWith, valueWith, ih h]
  | power b e ihb ihe =>
    simp only [bases, List.forall_mem_append] at h
    obtain ⟨⟨hbase, hb⟩, he⟩ := h
    have hnone : b.operand?.bind magnitude? = none := by
      cases hb : b.operand? with
      | none => rfl
      | some a => exact hbase a (by simp [hb])
    have hnone' : (b.operand?.bind fun _ => none : Option Quantity) = none := by
      cases b.operand? <;> rfl
    rw [valueWith, valueWith, hnone, hnone', ihb hb, ihe he]
  | product s l r ihl ihr | sum s l r ihl ihr =>
    obtain ⟨hl, hr⟩ := List.forall_mem_append.mp h
    rw [valueWith, valueWith, ihl hl, ihr hr]

/-! ### Expressions -/

/-- The expression that a formula with literals stands for. -/
def expr (of : α → Literal) {t : Tier} : Formula α t → Expr
  | operand a => .literal (of a)
  | group e => e.expr of
  | bare a => a.expr of
  | power b e => .binary .pow (b.expr of) (e.expr of)
  | negative e => .unary .neg (e.expr of)
  | factor e => e.expr of
  | product s l r => .binary s.op (l.expr of) (r.expr of)
  | term e => e.expr of
  | sum s l r => .binary s.op (l.expr of) (r.expr of)

/-- The value of a formula is that of its expression. -/
theorem evaluate_expr (of : α → Literal) (e : Formula α t) :
    evaluate (e.expr of) = e.value fun a => ofLiteral (of a) := by
  unfold value
  induction e with
  | operand a => rfl
  | group e ih | bare e ih | factor e ih | term e ih => exact ih
  | negative e ih => rw [expr, evaluate, valueWith, ih]
  | power b e ihb ihe =>
    have hnone : (b.operand?.bind fun _ => none : Option Quantity) = none := by
      cases b.operand? <;> rfl
    rw [expr, evaluate, valueWith, hnone, ihb, ihe]
    rfl
  | product s l r ihl ihr =>
    rw [expr, evaluate, valueWith, s.apply?_op, ihl, ihr]
  | sum s l r ihl ihr =>
    rw [expr, evaluate, valueWith, s.apply?_op, ihl, ihr]

end Formula

end CaseDict.Calc
