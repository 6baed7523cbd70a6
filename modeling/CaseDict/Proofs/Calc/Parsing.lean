import CaseDict.Proofs.Calc.Formulas
/-! # Formulas are parsed

The lexemes of a formula are parsed as the expression that it stands for (`Formula.expressionList_lexemes`).
The descent comes to the operators of a tier after those of all looser ones, and at each it goes on
only where an operator of that level follows (`Follows`). Operators of one level are taken from left
to right, so a formula of such a tier is what the loop over them begins with, not what it returns. -/

namespace CaseDict.Calc

variable {α β : Type} {ls rest : List Lexeme} {fuel : Nat} {r : Reading}

/-! ### Readers -/

theorem reader_bind (m : Reader α) (k : α → Reader β) (ls : List Lexeme) :
    (m >>= k) ls = (m ls).bind fun p => k p.1 p.2 := rfl

theorem reader_pure (a : α) (ls : List Lexeme) : (pure a : Reader α) ls = some (a, ls) := rfl

/-- No word comes next. -/
def NoWord (ls : List Lexeme) : Prop := ∀ id more, ls ≠ .name id :: more

theorem atWord_eq (h : NoWord ls) (s : String) : atWord s ls = some (false, ls) := by
  unfold atWord
  split
  · exact absurd rfl (h _ _)
  · rfl

theorem eatWord_eq (h : NoWord ls) (s : String) : eatWord s ls = some (false, ls) := by
  rw [eatWord, reader_bind, atWord_eq h]
  rfl

theorem atNameThen_eq (h : NoWord ls) (s : String) : atNameThen s ls = some (false, ls) := by
  unfold atNameThen
  split
  · exact absurd rfl (h _ _)
  · rfl

theorem eatSign_self (s : String) (ls : List Lexeme) :
    eatSign s (.operator s :: ls) = some (true, ls) := by
  have hat : atSign s (.operator s :: ls) = some (true, .operator s :: ls) := by simp [atSign]
  rw [eatSign, reader_bind, hat]
  rfl

theorem atSign_eq {s : String} (h : ∀ more, ls ≠ .operator s :: more) :
    atSign s ls = some (false, ls) := by
  unfold atSign
  split
  · next s' more =>
    have hne : s ≠ s' := by
      rintro rfl
      exact h more rfl
    simp [hne]
  · rfl

theorem eatSign_eq {s : String} (h : ∀ more, ls ≠ .operator s :: more) :
    eatSign s ls = some (false, ls) := by
  rw [eatSign, reader_bind, atSign_eq h]
  rfl

/-- Nothing comes next, or one of these operators. -/
def Follows (signs : List String) (ls : List Lexeme) : Prop :=
  ls = [] ∨ ∃ s ∈ signs, ∃ more, ls = .operator s :: more

namespace Follows

variable {signs signs' : List String}

theorem mono (h : Follows signs ls) (hs : signs ⊆ signs') : Follows signs' ls :=
  h.imp_right fun ⟨s, hmem, hls⟩ => ⟨s, hs hmem, hls⟩

theorem noWord (h : Follows signs ls) : NoWord ls := by
  rintro id more rfl
  obtain h | ⟨s, -, more', h⟩ := h <;> cases h

theorem ne (h : Follows signs ls) {s : String} (hs : s ∉ signs) (more : List Lexeme) :
    ls ≠ .operator s :: more := by
  rintro rfl
  obtain h | ⟨s', hs', more', h⟩ := h
  · cases h
  · cases h
    exact hs hs'

theorem eatOneOf_eq (h : Follows signs ls) {ops : List (String × BinaryOp)}
    (hs : ∀ s ∈ signs, ops.find? (·.1 == s) = none) : eatOneOf ops ls = some (none, ls) := by
  obtain rfl | ⟨s, hmem, more, rfl⟩ := h
  · rfl
  · simp only [eatOneOf, hs s hmem]

theorem eatComparison_eq (h : Follows signs ls)
    (hs : ∀ s ∈ signs, s ∉ ["==", "!=", "<", "<=", ">", ">="]) :
    eatComparison ls = some (none, ls) := by
  obtain rfl | ⟨s, hmem, more, rfl⟩ := h
  · rfl
  · have hs := hs s hmem
    unfold eatComparison
    split <;> first | rfl | simp_all

end Follows

/-- What may follow a formula of each tier. -/
def afterSum : List String := [")"]
def afterTerm : List String := ["+", "-"] ++ afterSum
def afterFactor : List String := ["*", "/", "//", "%"] ++ afterTerm
def afterAtom : List String := "**" :: afterFactor

/-! ### Levels of the descent -/

theorem expression_eq (hls : NoWord ls) (hrest : NoWord rest)
    (h : disjunction fuel ls = some (r, rest)) : expression (fuel + 1) ls = some (r, rest) := by
  rw [expression]
  simp only [reader_bind, eatWord_eq hls, Option.bind_some, Bool.false_eq_true, if_false, h,
    eatWord_eq hrest, reader_pure]

theorem disjunction_eq (hrest : NoWord rest) (h : conjunction (fuel + 1) ls = some (r, rest)) :
    disjunction (fuel + 2) ls = some (r, rest) := by
  have hmore : disjuncts (fuel + 1) rest = some ([], rest) := by
    rw [disjuncts]
    simp only [reader_bind, eatWord_eq hrest, Option.bind_some, Bool.false_eq_true, if_false,
      reader_pure]
  rw [disjunction]
  simp only [reader_bind, h, Option.bind_some, hmore, reader_pure, List.isEmpty_nil, if_true]

theorem conjunction_eq (hrest : NoWord rest) (h : inversion (fuel + 1) ls = some (r, rest)) :
    conjunction (fuel + 2) ls = some (r, rest) := by
  have hmore : conjuncts (fuel + 1) rest = some ([], rest) := by
    rw [conjuncts]
    simp only [reader_bind, eatWord_eq hrest, Option.bind_some, Bool.false_eq_true, if_false,
      reader_pure]
  rw [conjunction]
  simp only [reader_bind, h, Option.bind_some, hmore, reader_pure, List.isEmpty_nil, if_true]

theorem inversion_eq (hls : NoWord ls) (hrest : eatComparison rest = some (none, rest))
    (h : binary (fuel + 1) binaryLevels ls = some (r, rest)) :
    inversion (fuel + 2) ls = some (r, rest) := by
  have hmore : comparisons (fuel + 1) rest = some ([], rest) := by
    rw [comparisons]
    simp only [reader_bind, hrest, Option.bind_some, reader_pure]
  rw [inversion]
  simp only [reader_bind, eatWord_eq hls, Option.bind_some, Bool.false_eq_true, if_false, h, hmore,
    reader_pure, List.isEmpty_nil, if_true]

variable {ops : List (String × BinaryOp)} {tighter : List (List (String × BinaryOp))}

/-- The loop over the operators of a level ends. -/
theorem binaryMore_end (hrest : eatOneOf ops rest = some (none, rest)) :
    binaryMore (fuel + 1) ops tighter r rest = some (r, rest) := by
  rw [binaryMore]
  simp only [reader_bind, hrest, Option.bind_some, reader_pure]

theorem binary_cons (h : binary fuel tighter ls = some (r, rest)) :
    binary (fuel + 1) (ops :: tighter) ls = binaryMore fuel ops tighter r rest := by
  rw [binary]
  simp only [reader_bind, h, Option.bind_some]

/-- A level with none of its operators. -/
theorem binary_level (hrest : eatOneOf ops rest = some (none, rest))
    (h : binary (fuel + 1) tighter ls = some (r, rest)) :
    binary (fuel + 2) (ops :: tighter) ls = some (r, rest) := by
  rw [binary_cons h, binaryMore_end hrest]

/-- One turn of the loop. -/
theorem binaryMore_step {s : String} {op : BinaryOp} {left right : Reading} {more : List Lexeme}
    (hop : ops.find? (·.1 == s) = some (s, op))
    (h : binary fuel tighter more = some (right, rest)) :
    binaryMore (fuel + 1) ops tighter left (.operator s :: more) =
      binaryMore fuel ops tighter ⟨.binary op left.expr right.expr, false⟩ rest := by
  have heat : eatOneOf ops (.operator s :: more) = some (some op, more) := by
    simp only [eatOneOf, hop]
  rw [binaryMore]
  simp only [reader_bind, heat, Option.bind_some, h]

theorem factor_power (hls : ∀ s more, ls = .operator s :: more → unaryOp? s = none) :
    factor (fuel + 1) ls = power fuel ls := by
  rw [factor]
  dsimp only
  split
  · next s more =>
    rw [hls s more rfl]
  · rfl

theorem factor_neg {more : List Lexeme} (h : factor fuel more = some (r, rest)) :
    factor (fuel + 1) (.operator "-" :: more) = some (⟨.unary .neg r.expr, false⟩, rest) := by
  rw [factor]
  simp only [unaryOp?, h, Option.map_some]

theorem primary_eq (hrest : Follows afterAtom rest) (h : atom (fuel + 1) ls = some (r, rest)) :
    primary (fuel + 2) ls = some (r, rest) := by
  have hdot : eatSign "." rest = some (false, rest) := eatSign_eq (hrest.ne (by decide))
  have hcall : eatSign "(" rest = some (false, rest) := eatSign_eq (hrest.ne (by decide))
  have hitem : eatSign "[" rest = some (false, rest) := eatSign_eq (hrest.ne (by decide))
  have htrailers : trailers (fuel + 1) r rest = some (r, rest) := by
    rw [trailers]
    simp only [reader_bind, hdot, hcall, hitem, Option.bind_some, Bool.false_eq_true, if_false,
      reader_pure]
  rw [primary]
  simp only [reader_bind, h, Option.bind_some, htrailers]

/-- An operand that is not raised to a power. -/
theorem power_eq (hls : NoWord ls) (hrest : ∀ more, rest ≠ .operator "**" :: more)
    (h : primary fuel ls = some (r, rest)) : power (fuel + 1) ls = some (r, rest) := by
  rw [power]
  simp only [reader_bind, eatWord_eq hls, Option.bind_some, h, eatSign_eq hrest,
    Bool.false_eq_true, if_false, reader_pure]

theorem power_pow {exponent : Reading} {more : List Lexeme} (hls : NoWord ls)
    (h : primary fuel ls = some (r, .operator "**" :: more))
    (he : factor fuel more = some (exponent, rest)) :
    power (fuel + 1) ls = some (⟨.binary .pow r.expr exponent.expr, false⟩, rest) := by
  rw [power]
  simp only [reader_bind, eatWord_eq hls, Option.bind_some, h, eatSign_self, if_true, he,
    Bool.false_eq_true, if_false, reader_pure]

/-- An expression in parentheses. -/
theorem atom_parenthesised (hls : NoWord ls) (hclose : ∀ more, ls ≠ .operator ")" :: more)
    (hstar : ∀ more, ls ≠ .operator "*" :: more)
    (h : expression fuel ls = some (r, .operator ")" :: rest)) :
    atom (fuel + 4) (.operator "(" :: ls) = some (r, rest) := by
  have hnamed : named (fuel + 1) ls = some (r, .operator ")" :: rest) := by
    rw [named]
    simp only [reader_bind, atNameThen_eq hls, Option.bind_some, Bool.false_eq_true, if_false, h]
  have hmember : member (fuel + 2) ls = some ((r, false), .operator ")" :: rest) := by
    rw [member]
    simp only [reader_bind, eatSign_eq hstar, Option.bind_some, Bool.false_eq_true, if_false, hnamed,
      reader_pure]
  have hword : NoWord (.operator ")" :: rest) := by rintro id more ⟨⟩
  have hfor : atFor (fuel + 2) (.operator ")" :: rest) = some (false, .operator ")" :: rest) := by
    rw [atFor]
    simp only [reader_bind, atWord_eq hword, Option.bind_some, Bool.false_eq_true, if_false]
  have hcomma : atSign "," (.operator ")" :: rest) = some (false, .operator ")" :: rest) :=
    atSign_eq (by simp)
  have hsign : sign ")" (.operator ")" :: rest) = some ((), rest) := by
    rw [sign, reader_bind, eatSign_self]
    rfl
  have hparenthesised : parenthesised (fuel + 3) ls = some (r, rest) := by
    rw [parenthesised]
    simp only [reader_bind, eatSign_eq hclose, Option.bind_some, Bool.false_eq_true, if_false,
      eatWord_eq hls, hmember, hfor, hcomma, Bool.not_false, require, if_true, reader_pure, hsign]
  rw [atom]
  exact hparenthesised

/-! ### Formulas -/

namespace Formula

variable {t : Tier}

def lexeme (of : α → Literal) : Mark α → Lexeme
  | .operand a => .literal (of a)
  | .sign s => .operator s

/-- The lexemes of a formula with literals. -/
def lexemes (of : α → Literal) (e : Formula α t) : List Lexeme := e.marks.map (lexeme of)

variable {of : α → Literal}

@[simp] theorem lexemes_operand (a : α) : (operand a).lexemes of = [.literal (of a)] := rfl

@[simp] theorem lexemes_group (e : Formula α .sum) :
    (group e).lexemes of = .operator "(" :: (e.lexemes of ++ [.operator ")"]) := by
  simp [lexemes, marks, lexeme]

@[simp] theorem lexemes_bare (e : Formula α .atom) : (bare e).lexemes of = e.lexemes of := rfl

@[simp] theorem lexemes_power (b : Formula α .atom) (e : Formula α .factor) :
    (power b e).lexemes of = b.lexemes of ++ .operator "**" :: e.lexemes of := by
  simp [lexemes, marks, lexeme]

@[simp] theorem lexemes_negative (e : Formula α .factor) :
    (negative e).lexemes of = .operator "-" :: e.lexemes of := rfl

@[simp] theorem lexemes_factor (e : Formula α .factor) : (factor e).lexemes of = e.lexemes of := rfl

@[simp] theorem lexemes_product (s : Scaling) (l : Formula α .term) (r : Formula α .factor) :
    (product s l r).lexemes of = l.lexemes of ++ .operator s.sign :: r.lexemes of := by
  simp [lexemes, marks, lexeme]

@[simp] theorem lexemes_term (e : Formula α .term) : (term e).lexemes of = e.lexemes of := rfl

@[simp] theorem lexemes_sum (s : Shift) (l : Formula α .sum) (r : Formula α .term) :
    (sum s l r).lexemes of = l.lexemes of ++ .operator s.sign :: r.lexemes of := by
  simp [lexemes, marks, lexeme]

/-- A formula begins with a literal, a parenthesis or a minus sign. -/
def Begins (ls : List Lexeme) : Prop :=
  ∃ more, (∃ l, ls = .literal l :: more) ∨ ∃ s ∈ ["(", "-"], ls = .operator s :: more

theorem Begins.append (h : Begins ls) (rest : List Lexeme) : Begins (ls ++ rest) := by
  obtain ⟨more, ⟨l, rfl⟩ | ⟨s, hs, rfl⟩⟩ := h
  · exact ⟨more ++ rest, .inl ⟨l, rfl⟩⟩
  · exact ⟨more ++ rest, .inr ⟨s, hs, rfl⟩⟩

theorem Begins.noWord (h : Begins ls) : NoWord ls := by
  rintro id more rfl
  obtain ⟨more', ⟨l, h⟩ | ⟨s, -, h⟩⟩ := h <;> cases h

theorem Begins.ne (h : Begins ls) {s : String} (hs : s ∉ ["(", "-"]) (more : List Lexeme) :
    ls ≠ .operator s :: more := by
  rintro rfl
  obtain ⟨more', ⟨l, h⟩ | ⟨s', hs', h⟩⟩ := h
  · cases h
  · cases h
    exact hs hs'

theorem begins (e : Formula α t) : Begins (e.lexemes of) := by
  induction e with
  | operand a => exact ⟨[], .inl ⟨of a, rfl⟩⟩
  | group e ih => exact ⟨_, .inr ⟨"(", by decide, lexemes_group e⟩⟩
  | negative e ih => exact ⟨_, .inr ⟨"-", by decide, rfl⟩⟩
  | bare e ih | factor e ih | term e ih => exact ih
  | power b e ihb _ =>
    rw [lexemes_power]
    exact ihb.append _
  | product s l r ihl _ =>
    rw [lexemes_product]
    exact ihl.append _
  | sum s l r ihl _ =>
    rw [lexemes_sum]
    exact ihl.append _

theorem length_pos (of : α → Literal) (e : Formula α t) : 0 < (e.lexemes of).length := by
  have hbegins : Begins (e.lexemes of) := e.begins
  obtain ⟨more, ⟨l, h⟩ | ⟨s, -, h⟩⟩ := hbegins <;> simp [h]

/-- The operators of each level, as the descent meets them. -/
def scalings : List (String × BinaryOp) :=
  [("*", .mul), ("/", .div), ("//", .floorDiv), ("%", .mod), ("@", .matMul)]

def shifts : List (String × BinaryOp) := [("+", .add), ("-", .sub)]

/-- The lexemes of a formula are read as its expression. Fuel is counted by lexemes: to come from one
to the next takes at most 20 steps down. -/
def Parses (of : α → Literal) : {t : Tier} → Formula α t → Prop
  | .atom, e => ∀ fuel rest, 20 * (e.lexemes of).length ≤ fuel → Follows afterAtom rest →
      Calc.atom fuel (e.lexemes of ++ rest) = some (⟨e.expr of, false⟩, rest)
  | .factor, e => ∀ fuel rest, 20 * (e.lexemes of).length + 4 ≤ fuel → Follows afterFactor rest →
      Calc.factor fuel (e.lexemes of ++ rest) = some (⟨e.expr of, false⟩, rest)
  | .term, e => ∀ fuel rest, 20 * (e.lexemes of).length + 6 ≤ fuel → Follows afterFactor rest →
      ∃ fuel', fuel ≤ fuel' + (e.lexemes of).length ∧
        binary fuel [scalings] (e.lexemes of ++ rest) =
          binaryMore fuel' scalings [] ⟨e.expr of, false⟩ rest
  | .sum, e => ∀ fuel rest, 20 * (e.lexemes of).length + 8 ≤ fuel → Follows afterTerm rest →
      ∃ fuel', fuel ≤ fuel' + (e.lexemes of).length ∧
        binary fuel [shifts, scalings] (e.lexemes of ++ rest) =
          binaryMore fuel' shifts [scalings] ⟨e.expr of, false⟩ rest

/-! ### One tier after the other -/

theorem parses_operand (a : α) : Parses of (operand a) := by
  intro fuel rest hfuel _
  obtain ⟨fuel, rfl⟩ : ∃ k, fuel = k + 1 := ⟨fuel - 1, by simp at hfuel; omega⟩
  rw [lexemes_operand, Calc.atom]
  rfl

/-- A level is done where none of its operators follows. -/
theorem binaryMore_done {signs : List String} {ops : List (String × BinaryOp)}
    {tighter : List (List (String × BinaryOp))} (hfuel : 0 < fuel) (hrest : Follows signs rest)
    (hs : ∀ s ∈ signs, ops.find? (·.1 == s) = none) :
    binaryMore fuel ops tighter r rest = some (r, rest) := by
  obtain ⟨fuel, rfl⟩ : ∃ k, fuel = k + 1 := ⟨fuel - 1, by omega⟩
  exact binaryMore_end (hrest.eatOneOf_eq hs)

/-- A formula is read as an expression where a parenthesis or nothing follows. -/
theorem expression_lexemes {e : Formula α .sum} (h : Parses of e)
    (hfuel : 20 * (e.lexemes of).length + 20 ≤ fuel) (hrest : Follows afterSum rest) :
    expression fuel (e.lexemes of ++ rest) = some (⟨e.expr of, false⟩, rest) := by
  obtain ⟨fuel, rfl⟩ : ∃ k, fuel = k + 9 := ⟨fuel - 9, by omega⟩
  have hword : NoWord (e.lexemes of ++ rest) := (e.begins.append rest).noWord
  have hcomparison : eatComparison rest = some (none, rest) := hrest.eatComparison_eq (by decide)
  obtain ⟨left, hleft, hbinary⟩ := h (fuel + 1) rest (by omega) (hrest.mono (by decide))
  rw [binaryMore_done (by omega) hrest (by decide)] at hbinary
  -- the looser operators on bits do not occur
  have hlevels : binary (fuel + 5) binaryLevels (e.lexemes of ++ rest) =
      some (⟨e.expr of, false⟩, rest) :=
    binary_level (hrest.eatOneOf_eq (by decide)) <|
      binary_level (hrest.eatOneOf_eq (by decide)) <|
        binary_level (hrest.eatOneOf_eq (by decide)) <|
          binary_level (hrest.eatOneOf_eq (by decide)) hbinary
  have hinversion := inversion_eq hword hcomparison hlevels
  have hdisjunction := disjunction_eq hrest.noWord (conjunction_eq hrest.noWord hinversion)
  exact expression_eq hword hrest.noWord hdisjunction

theorem parses_group {e : Formula α .sum} (h : Parses of e) : Parses of (group e) := by
  intro fuel rest hfuel _
  rw [lexemes_group, List.length_cons, List.length_append, List.length_singleton] at hfuel
  obtain ⟨fuel, rfl⟩ : ∃ k, fuel = k + 4 := ⟨fuel - 4, by omega⟩
  have hbegins : Begins (e.lexemes of ++ .operator ")" :: rest) := e.begins.append _
  have hexpression : expression fuel (e.lexemes of ++ .operator ")" :: rest) =
      some (⟨e.expr of, false⟩, .operator ")" :: rest) :=
    expression_lexemes h (by omega) (.inr ⟨")", by decide, rest, rfl⟩)
  have hatom := atom_parenthesised hbegins.noWord (hbegins.ne (by decide)) (hbegins.ne (by decide))
    hexpression
  rw [lexemes_group, List.cons_append, List.append_assoc]
  exact hatom

/-- An atom is read as what a power begins with. -/
theorem primary_lexemes {e : Formula α .atom} (h : Parses of e) (fuel : Nat)
    (hfuel : 20 * (e.lexemes of).length + 2 ≤ fuel) (hrest : Follows afterAtom rest) :
    primary fuel (e.lexemes of ++ rest) = some (⟨e.expr of, false⟩, rest) := by
  obtain ⟨fuel, rfl⟩ : ∃ k, fuel = k + 2 := ⟨fuel - 2, by omega⟩
  exact primary_eq hrest (h (fuel + 1) rest (by omega) hrest)

/-- An atom does not begin with a sign. -/
theorem unaryOp?_atom (e : Formula α .atom) {s : String} {more : List Lexeme}
    (h : e.lexemes of ++ rest = .operator s :: more) : unaryOp? s = none := by
  cases e with
  | operand a => simp at h
  | group e =>
    obtain rfl : "(" = s := by simpa using congrArg List.head? h
    rfl

theorem parses_bare {e : Formula α .atom} (h : Parses of e) : Parses of (bare e) := by
  intro fuel rest hfuel hrest
  rw [lexemes_bare] at hfuel ⊢
  obtain ⟨fuel, rfl⟩ : ∃ k, fuel = k + 2 := ⟨fuel - 2, by omega⟩
  have hprimary := primary_lexemes h fuel (by omega)
    (hrest.mono (List.subset_cons_self ..))
  rw [factor_power fun s more hs => e.unaryOp?_atom hs]
  exact power_eq (e.begins.append rest).noWord (hrest.ne (by decide)) hprimary

theorem parses_power {b : Formula α .atom} {e : Formula α .factor} (hb : Parses of b)
    (he : Parses of e) : Parses of (power b e) := by
  intro fuel rest hfuel hrest
  rw [lexemes_power, List.length_append, List.length_cons] at hfuel
  rw [lexemes_power, List.append_assoc, List.cons_append]
  have hpos := b.length_pos of
  obtain ⟨fuel, rfl⟩ : ∃ k, fuel = k + 2 := ⟨fuel - 2, by omega⟩
  have hprimary := primary_lexemes hb fuel (by omega)
    (.inr ⟨"**", by decide, e.lexemes of ++ rest, rfl⟩)
  have hexponent := he fuel rest (by omega) hrest
  rw [factor_power fun s more hs => b.unaryOp?_atom hs]
  exact power_pow (b.begins.append _).noWord hprimary hexponent

theorem parses_negative {e : Formula α .factor} (h : Parses of e) : Parses of (negative e) := by
  intro fuel rest hfuel hrest
  rw [lexemes_negative, List.length_cons] at hfuel
  obtain ⟨fuel, rfl⟩ : ∃ k, fuel = k + 1 := ⟨fuel - 1, by omega⟩
  exact factor_neg (h fuel rest (by omega) hrest)

/-- A factor is read at the tightest level. -/
theorem binary_factor {e : Formula α .factor} (h : Parses of e) (fuel : Nat)
    (hfuel : 20 * (e.lexemes of).length + 5 ≤ fuel) (hrest : Follows afterFactor rest) :
    binary fuel [] (e.lexemes of ++ rest) = some (⟨e.expr of, false⟩, rest) := by
  obtain ⟨fuel, rfl⟩ : ∃ k, fuel = k + 1 := ⟨fuel - 1, by omega⟩
  rw [binary]
  exact h fuel rest (by omega) hrest

theorem parses_factor {e : Formula α .factor} (h : Parses of e) : Parses of (factor e) := by
  intro fuel rest hfuel hrest
  have hpos := e.length_pos of
  rw [lexemes_factor] at hfuel ⊢
  obtain ⟨fuel, rfl⟩ : ∃ k, fuel = k + 1 := ⟨fuel - 1, by omega⟩
  exact ⟨fuel, by omega, binary_cons (binary_factor h _ (by omega) hrest)⟩

theorem parses_product (s : Scaling) {l : Formula α .term} {r : Formula α .factor}
    (hl : Parses of l) (hr : Parses of r) : Parses of (product s l r) := by
  intro fuel rest hfuel hrest
  rw [lexemes_product, List.length_append, List.length_cons] at hfuel ⊢
  rw [List.append_assoc, List.cons_append]
  have hpos := l.length_pos of
  obtain ⟨left, hleft, hbinary⟩ := hl fuel (.operator s.sign :: (r.lexemes of ++ rest)) (by omega)
    (.inr ⟨s.sign, by cases s <;> decide, _, rfl⟩)
  obtain ⟨left, rfl⟩ : ∃ k, left = k + 1 := ⟨left - 1, by omega⟩
  have hright := binary_factor hr left (by omega) hrest
  have hop : scalings.find? (·.1 == s.sign) = some (s.sign, s.op) := by cases s <;> decide
  exact ⟨left, by omega, hbinary.trans (binaryMore_step hop hright)⟩

/-- A term is read at the level of products. -/
theorem binary_term {e : Formula α .term} (h : Parses of e) (fuel : Nat)
    (hfuel : 20 * (e.lexemes of).length + 6 ≤ fuel) (hrest : Follows afterTerm rest) :
    binary fuel [scalings] (e.lexemes of ++ rest) = some (⟨e.expr of, false⟩, rest) := by
  have hpos := e.length_pos of
  obtain ⟨left, hleft, hbinary⟩ := h fuel rest hfuel (hrest.mono (List.subset_append_right ..))
  exact hbinary.trans (binaryMore_done (by omega) hrest (by decide))

theorem parses_term {e : Formula α .term} (h : Parses of e) : Parses of (term e) := by
  intro fuel rest hfuel hrest
  have hpos := e.length_pos of
  rw [lexemes_term] at hfuel ⊢
  obtain ⟨fuel, rfl⟩ : ∃ k, fuel = k + 1 := ⟨fuel - 1, by omega⟩
  exact ⟨fuel, by omega, binary_cons (binary_term h _ (by omega) hrest)⟩

theorem parses_sum (s : Shift) {l : Formula α .sum} {r : Formula α .term} (hl : Parses of l)
    (hr : Parses of r) : Parses of (sum s l r) := by
  intro fuel rest hfuel hrest
  rw [lexemes_sum, List.length_append, List.length_cons] at hfuel ⊢
  rw [List.append_assoc, List.cons_append]
  have hpos := l.length_pos of
  obtain ⟨left, hleft, hbinary⟩ := hl fuel (.operator s.sign :: (r.lexemes of ++ rest)) (by omega)
    (.inr ⟨s.sign, by cases s <;> decide, _, rfl⟩)
  obtain ⟨left, rfl⟩ : ∃ k, left = k + 1 := ⟨left - 1, by omega⟩
  have hright := binary_term hr left (by omega) hrest
  have hop : shifts.find? (·.1 == s.sign) = some (s.sign, s.op) := by cases s <;> decide
  exact ⟨left, by omega, hbinary.trans (binaryMore_step hop hright)⟩

theorem parses (e : Formula α t) : Parses of e := by
  induction e with
  | operand a => exact parses_operand a
  | group e ih => exact parses_group ih
  | bare e ih => exact parses_bare ih
  | power b e ihb ihe => exact parses_power ihb ihe
  | negative e ih => exact parses_negative ih
  | factor e ih => exact parses_factor ih
  | product s l r ihl ihr => exact parses_product s ihl ihr
  | term e ih => exact parses_term ih
  | sum s l r ihl ihr => exact parses_sum s ihl ihr

/-- **A formula is parsed** as the expression that it stands for. -/
theorem expressionList_lexemes (of : α → Literal) (e : Formula α .sum) (fuel : Nat)
    (hfuel : 20 * (e.lexemes of).length + 21 ≤ fuel) :
    expressionList fuel (e.lexemes of) = some (e.expr of, []) := by
  obtain ⟨fuel, rfl⟩ : ∃ k, fuel = k + 1 := ⟨fuel - 1, by omega⟩
  have hexpression : expression fuel (e.lexemes of ++ []) = some (⟨e.expr of, false⟩, []) :=
    expression_lexemes e.parses (by omega) (.inl rfl)
  rw [List.append_nil] at hexpression
  rw [expressionList, reader_bind, hexpression]
  rfl

end Formula

end CaseDict.Calc
