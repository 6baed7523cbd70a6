import CaseDict.Proofs.Calc.Lexing
import CaseDict.Proofs.Calc.Operands
/-! # Numbers pasted into formulas

A formula with variables becomes one without when the text of its number is pasted in the place of
each variable (`Formula.paste`). A number with a minus sign is pasted as a sign and an operand: this
is the number again (`Formula.valueWith_eq_paste`), except before a power sign, where the sign is
left to the power. -/

namespace CaseDict

/-- Finite numbers that are not too long to be written. -/
abbrev PlainNumber := {n : Number // n.IsPlain}

namespace Number

/-- The number as a value of expressions. -/
def quantity : Number → Calc.Quantity
  | .int n => .int n
  | .float x => .float x

/-- What is written of a number after its sign. -/
def numeral (n : PlainNumber) : Calc.Numeral where
  text := n.val.text.toList.drop (sign n.val.isNegative).length
  value := n.val.magnitude.literal
  spelled := by
    obtain ⟨m, htext, hvalue⟩ := exists_numeral n.property
    rw [htext, List.drop_left, ← hvalue]
    exact m.spelled

theorem text_eq (n : PlainNumber) : n.val.text.toList = sign n.val.isNegative ++ (numeral n).text := by
  obtain ⟨m, htext, -⟩ := exists_numeral n.property
  have hdrop : (numeral n).text = m.text := by
    change n.val.text.toList.drop _ = _
    rw [htext, List.drop_left]
  rw [hdrop, htext]

theorem quantity_negate (n : Number) : n.quantity.neg = some n.negate.quantity := by
  cases n <;> rfl

/-- The literal of a magnitude has its value. -/
theorem ofLiteral_literal (n : Number) :
    Calc.ofLiteral n.magnitude.literal = .ok n.magnitude.quantity := by
  cases n with
  | int n =>
    have habs : (n.natAbs : Int) = if n < 0 then -n else n := by split <;> omega
    unfold magnitude isNegative
    by_cases hn : n < 0
    · simp [hn, negate, literal, quantity, Calc.ofLiteral, habs]
    · simp [hn, literal, quantity, Calc.ofLiteral, habs]
  | float x =>
    unfold magnitude
    split <;> rfl

end Number

namespace Calc

variable {t : Tier}

/-- An operand of a formula with variables. -/
inductive Operand where
  | numeral (n : Numeral)
  | reference (name : String)

namespace Operand

/-- What is written for an operand. -/
def text : Operand → List Char
  | numeral n => n.text
  | reference name => '$' :: name.toList

variable (value : String → PlainNumber)

/-- An operand counts as one value: a variable as its number. -/
def evaluate : Operand → Except Stop Quantity
  | numeral n => ofLiteral n.value
  | reference name => .ok (value name).val.quantity

/-- The number of the variable has a minus sign. -/
def negative : Operand → Bool
  | numeral _ => false
  | reference name => (value name).val.isNegative

/-- The magnitude of a variable whose number has a minus sign. -/
def magnitude? : Operand → Option Quantity
  | numeral _ => none
  | reference name =>
    if (value name).val.isNegative then some (value name).val.magnitude.quantity else none

/-- What is pasted for an operand after its sign. -/
def pasted : Operand → Numeral
  | numeral n => n
  | reference name => Number.numeral (value name)

end Operand

/-- A value with a minus sign before it, if there is one. -/
def negated (negative : Bool) (v : Except Stop Quantity) : Except Stop Quantity :=
  if negative then do valued (← v).neg else v

/-- An operand is what is pasted for it, after its sign. -/
theorem Operand.evaluate_eq (value : String → PlainNumber) (a : Operand) :
    a.evaluate value = negated (a.negative value) (ofLiteral (a.pasted value).value) := by
  cases a with
  | numeral n => rfl
  | reference name =>
    have hliteral := Number.ofLiteral_literal (value name).val
    rw [evaluate, negative, pasted, Number.numeral, hliteral]
    unfold negated
    split
    · next hn =>
      have hneg := Number.quantity_negate (value name).val.magnitude
      rw [Number.negate_magnitude (value name).property hn] at hneg
      change _ = valued (Quantity.neg _)
      rw [hneg]
      rfl
    · next hn => rw [Number.magnitude, if_neg hn]

/-- The mark of a minus sign, if there is one. -/
def minus (negative : Bool) : List (Mark Numeral) := if negative then [.sign "-"] else []

/-- What is pasted for a mark. -/
def Mark.paste (value : String → PlainNumber) : Mark Operand → List (Mark Numeral)
  | .operand a => minus (a.negative value) ++ [.operand (a.pasted value)]
  | .sign s => [.sign s]

namespace Formula

variable (value : String → PlainNumber)

/-- The formula is a variable whose number has a minus sign. -/
def leads {t : Tier} : Formula Operand t → Bool
  | operand a => a.negative value
  | _ => false

/-- The formula with a minus sign before it, if there is one. -/
def signed (negative : Bool) (e : Formula Numeral .factor) : Formula Numeral .factor :=
  if negative then .negative e else e

/-- The formula with numbers pasted in the place of variables; the sign of one that is the whole
formula is left to what stands around. -/
def paste {t : Tier} : Formula Operand t → Formula Numeral t
  | operand a => operand (a.pasted value)
  | group e => group e.paste
  | bare a => signed (a.leads value) (bare a.paste)
  | power b e => signed (b.leads value) (power b.paste e.paste)
  | negative e => negative e.paste
  | factor e => factor e.paste
  | product s l r => product s l.paste r.paste
  | term e => term e.paste
  | sum s l r => sum s l.paste r.paste

variable {value}

theorem marks_signed (n : Bool) (e : Formula Numeral .factor) :
    (signed n e).marks = minus n ++ e.marks := by
  cases n <;> rfl

theorem depth_signed (n : Bool) (e : Formula Numeral .factor) : (signed n e).depth = e.depth := by
  cases n <;> rfl

@[simp] theorem leads_factor (e : Formula Operand .factor) : e.leads value = false := by
  cases e <;> rfl

@[simp] theorem leads_term (e : Formula Operand .term) : e.leads value = false := by
  cases e <;> rfl

@[simp] theorem leads_sum (e : Formula Operand .sum) : e.leads value = false := by
  cases e <;> rfl

@[simp] theorem minus_false : minus false = [] := rfl

@[simp] theorem negated_false (v : Except Stop Quantity) : negated false v = v := rfl

/-- The marks of the pasted formula are those that are pasted for the marks, but for its own sign. -/
theorem flatMap_marks (e : Formula Operand t) :
    e.marks.flatMap (Mark.paste value) = minus (e.leads value) ++ (e.paste value).marks := by
  induction e with
  | operand a => rw [marks, List.flatMap_singleton]; rfl
  | group e ih =>
    rw [leads_sum, minus_false, List.nil_append] at ih
    simp [marks, paste, leads, Mark.paste, ih]
  | bare e ih => rw [leads_factor, paste, marks_signed, marks, marks, ih]; rfl
  | factor e ih => rwa [leads_term, leads_factor] at *
  | term e ih => rwa [leads_sum, leads_term] at *
  | negative e ih =>
    rw [leads_factor, minus_false, List.nil_append] at ih ⊢
    simp [marks, paste, Mark.paste, ih]
  | power b e ihb ihe =>
    rw [leads_factor, minus_false, List.nil_append] at ihe ⊢
    simp [marks, paste, marks_signed, Mark.paste, ihb, ihe]
  | product s l r ihl ihr =>
    rw [leads_term, minus_false, List.nil_append] at ihl ⊢
    rw [leads_factor, minus_false, List.nil_append] at ihr
    simp [marks, paste, Mark.paste, ihl, ihr]
  | sum s l r ihl ihr =>
    rw [leads_sum, minus_false, List.nil_append] at ihl ⊢
    rw [leads_term, minus_false, List.nil_append] at ihr
    simp [marks, paste, Mark.paste, ihl, ihr]

theorem depth_paste (e : Formula Operand t) : (e.paste value).depth = e.depth := by
  induction e with
  | operand a => rfl
  | group e ih => rw [paste, depth, depth, ih]
  | bare e ih => rw [paste, depth_signed, depth, depth, ih]
  | factor e ih | term e ih | negative e ih => exact ih
  | power b e ihb ihe => rw [paste, depth_signed, depth, depth, ihb, ihe]
  | product s l r ihl ihr | sum s l r ihl ihr => rw [paste, depth, depth, ihl, ihr]

theorem value_signed (of : Numeral → Except Stop Quantity) (n : Bool)
    (e : Formula Numeral .factor) : (signed n e).value of = negated n (e.value of) := by
  cases n <;> rfl

theorem value_power (of : Numeral → Except Stop Quantity) (b : Formula Numeral .atom)
    (e : Formula Numeral .factor) : (power b e).value of = (do
      let m ← b.value of
      let n ← e.value of
      valued (m.pow n)) := by
  cases b <;> rfl

/-- The base of a power is an operand with a sign, or has the value of what is pasted for it. -/
theorem base_cases (value : String → PlainNumber) (b : Formula Operand .atom) :
    (b.leads value = true ∧ ∃ m, b.operand?.bind (Operand.magnitude? value) = some m ∧
      (b.paste value).value (fun n => ofLiteral n.value) = .ok m) ∨
    (b.leads value = false ∧ b.operand?.bind (Operand.magnitude? value) = none) := by
  cases b with
  | group e => exact .inr ⟨rfl, rfl⟩
  | operand a =>
    cases a with
    | numeral n => exact .inr ⟨rfl, rfl⟩
    | reference name =>
      cases hn : (value name).val.isNegative with
      | true =>
        refine .inl ⟨hn, (value name).val.magnitude.quantity, ?_, Number.ofLiteral_literal _⟩
        exact if_pos hn
      | false =>
        refine .inr ⟨hn, if_neg ?_⟩
        rw [hn]
        exact Bool.false_ne_true

/-- **A formula has the value of what is pasted for it**, but for its own sign. -/
theorem valueWith_eq_paste (e : Formula Operand t) :
    e.valueWith (Operand.evaluate value) (Operand.magnitude? value) =
      negated (e.leads value) ((e.paste value).value fun n => ofLiteral n.value) := by
  induction e with
  | operand a => exact a.evaluate_eq value
  | group e ih => exact ih.trans (congrArg (negated · _) (leads_sum e))
  | bare e ih => rw [leads_factor, negated_false, paste, value_signed]; exact ih
  | factor e ih => rwa [leads_factor] at ih
  | term e ih => rwa [leads_term] at ih
  | negative e ih =>
    rw [leads_factor, negated_false] at ih ⊢
    rw [valueWith, ih]
    rfl
  | power b e ihb ihe =>
    rw [leads_factor, negated_false] at ihe ⊢
    rw [valueWith, paste, value_signed, value_power, ihe]
    obtain ⟨hleads, m, hm, hvalue⟩ | ⟨hleads, hnone⟩ := base_cases value b
    · rw [hm, hleads, hvalue]
      cases (e.paste value).value fun n => ofLiteral n.value <;> rfl
    · rw [hleads, negated_false] at ihb
      rw [hnone, hleads, negated_false, ihb]
  | product s l r ihl ihr =>
    rw [leads_term, negated_false] at ihl ⊢
    rw [leads_factor, negated_false] at ihr
    rw [valueWith, ihl, ihr]
    rfl
  | sum s l r ihl ihr =>
    rw [leads_sum, negated_false] at ihl ⊢
    rw [leads_term, negated_false] at ihr
    rw [valueWith, ihl, ihr]
    rfl

end Formula

end Calc

end CaseDict
