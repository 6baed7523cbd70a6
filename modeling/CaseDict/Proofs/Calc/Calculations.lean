import CaseDict.Expansion
import CaseDict.Proofs.Calc.Pasting
import CaseDict.Proofs.Giving
import CaseDict.Proofs.Templates
/-! # Calculations with variables

`#calc` pastes the numbers of variables into its expression and evaluates what comes of it. For an
arithmetic formula this is its value with each variable as one operand, except where a number with a
minus sign is the base of a power (`Expansion.calculate_formula`). -/

namespace CaseDict

open Calc

variable {t : Tier} {s : Surroundings} {value : String → PlainNumber}

/-! ### Variables in texts -/

/-- The name may stand behind a sigil without braces. -/
def IsName (name : String) : Prop :=
  name.toList ≠ [] ∧ ∀ c ∈ name.toList, Text.isWord c = true

/-- The name denotes an entry that holds this number and nothing else. -/
def Surroundings.Holds (s : Surroundings) (name : String) (n : Number) : Prop :=
  ∃ head line, s.find? name = some (.primitive head [⟨.number n, line⟩])

theorem Surroundings.Holds.text {name : String} {n : Number} (h : s.Holds name n) (line : Int) :
    s.text line name = .ok n.text := by
  obtain ⟨head, l, hfind⟩ := h
  rw [Surroundings.text, hfind]
  rfl

/-- The variables among the operands have names and hold their numbers. -/
def Surroundings.Gives (s : Surroundings) (value : String → PlainNumber)
    (ms : List (Mark Operand)) : Prop :=
  ∀ name, .operand (.reference name) ∈ ms → IsName name ∧ s.Holds name (value name).val

/-- The marks of a formula, each after a space. -/
def Calc.Formula.spaced (e : Formula Operand t) : List (Gap × Mark Operand) :=
  e.marks.map fun m => (⟨[' '], by simp⟩, m)

theorem Calc.Formula.map_spaced (e : Formula Operand t) : e.spaced.map Prod.snd = e.marks := by
  simp [spaced]

/-- Marks after the gap before the first of them. -/
def setOut (gap : Gap) : List (Mark Numeral) → List (Gap × Mark Numeral)
  | [] => []
  | m :: ms => (gap, m) :: ms.map fun m => (⟨[], by simp⟩, m)

/-- What is pasted for marks with gaps. -/
def pasteAll (value : String → PlainNumber) (laid : List (Gap × Mark Operand)) :
    List (Gap × Mark Numeral) :=
  laid.flatMap fun p => setOut p.1 (p.2.paste value)

/-- The text with the numbers of the variables in it. -/
def pastedText (value : String → PlainNumber) (laid : List (Gap × Mark Operand)) (tail : Gap) :
    String :=
  String.ofList (written Numeral.text (pasteAll value laid) ++ tail.val)

theorem map_setOut (gap : Gap) (ms : List (Mark Numeral)) : (setOut gap ms).map Prod.snd = ms := by
  cases ms with
  | nil => rfl
  | cons m ms => simp [setOut]

theorem map_pasteAll (laid : List (Gap × Mark Operand)) :
    (pasteAll value laid).map Prod.snd = (laid.map Prod.snd).flatMap (Mark.paste value) := by
  simp [pasteAll, List.map_flatMap, List.flatMap_map, map_setOut]

/-- What is written for what is pasted for a mark. -/
def pastedChars (value : String → PlainNumber) (m : Mark Operand) : List Char :=
  (m.paste value).flatMap (Mark.chars Numeral.text)

theorem pastedChars_sign (s : String) : pastedChars value (.sign s) = s.toList :=
  List.append_nil _

theorem pastedChars_numeral (n : Numeral) : pastedChars value (.operand (.numeral n)) = n.text :=
  List.append_nil _

/-- For a variable its number is written. -/
theorem pastedChars_reference (name : String) :
    pastedChars value (.operand (.reference name)) = (value name).val.text.toList := by
  rw [Number.text_eq, pastedChars, Mark.paste, Operand.negative]
  cases (value name).val.isNegative <;> simp [minus, Number.sign, Mark.chars, Operand.pasted]

theorem written_setOut (gap : Gap) {ms : List (Mark Numeral)} (hne : ms ≠ []) :
    written Numeral.text (setOut gap ms) = gap.val ++ ms.flatMap (Mark.chars Numeral.text) := by
  obtain ⟨m, ms, rfl⟩ := List.exists_cons_of_ne_nil hne
  simp [setOut, written, List.flatMap_map]

theorem written_pasteAll_cons (gap : Gap) (m : Mark Operand) (laid : List (Gap × Mark Operand)) :
    written Numeral.text (pasteAll value ((gap, m) :: laid)) =
      gap.val ++ (pastedChars value m ++ written Numeral.text (pasteAll value laid)) := by
  have hne : m.paste value ≠ [] := by cases m <;> simp [Mark.paste]
  have hsplit : written Numeral.text (pasteAll value ((gap, m) :: laid)) =
      written Numeral.text (setOut gap (m.paste value)) ++ written Numeral.text (pasteAll value laid) :=
    List.flatMap_append
  rw [hsplit, written_setOut gap hne, List.append_assoc]
  rfl

theorem isWord_delimiter : ∀ c ∈ delimiters, Text.isWord c = false := by
  intro c hc
  simp only [delimiters, List.mem_cons, List.not_mem_nil, or_false] at hc
  rcases hc with rfl | rfl | rfl | rfl | rfl | rfl | rfl | rfl | rfl <;> decide

/-! ### Pasting -/

theorem sigil_notMem_gap (gap : Gap) : '$' ∉ gap.val := by
  intro hmem
  obtain h | h := gap.property _ hmem <;> contradiction

/-- Only a variable is written with a sigil. -/
theorem sigil_notMem_chars {m : Mark Operand} (hm : ∀ s, m = .sign s → s ∈ signs)
    (href : ∀ name, m ≠ .operand (.reference name)) : '$' ∉ m.chars Operand.text := by
  intro hmem
  cases m with
  | sign s =>
    have hall : ∀ s ∈ signs, '$' ∉ s.toList := by simp [signs]
    exact hall s (hm s rfl) hmem
  | operand a =>
    cases a with
    | numeral n => exact absurd (n.ofNumber_of_mem hmem) (by decide)
    | reference name => exact href name rfl

/-- A mark without a sigil is pasted as it is. -/
theorem pastedChars_eq {m : Mark Operand} (href : ∀ name, m ≠ .operand (.reference name)) :
    pastedChars value m = m.chars Operand.text := by
  cases m with
  | sign s => exact pastedChars_sign s
  | operand a =>
    cases a with
    | numeral n => exact pastedChars_numeral n
    | reference name => exact absurd rfl (href name)

theorem isWord_gap (gap : Gap) : ∀ c ∈ gap.val, Text.isWord c = false := by
  intro c hc
  obtain rfl | rfl := gap.property c hc <;> decide

/-- What stands behind a variable does not go on with its name. -/
theorem not_isWord_behind {a : Operand} {laid : List (Gap × Mark Operand)} (tail : Gap)
    (hchain : (.operand a :: laid.map Prod.snd).IsChain Mark.Meets)
    (hsigns : ∀ s, .sign s ∈ laid.map Prod.snd → s ∈ signs) :
    ∀ c ∈ (written Operand.text laid ++ tail.val).head?, Text.isWord c = false := by
  intro c hc
  cases laid with
  | nil => exact isWord_gap tail c (List.mem_of_head? hc)
  | cons p laid =>
    obtain ⟨gap, m⟩ := p
    have hmeets : Mark.Meets (.operand a) m := (List.isChain_cons_cons.mp hchain).1
    cases m with
    | operand b => exact hmeets.elim
    | sign s =>
      have hdelimits := delimits_sign Operand.text gap (hsigns s (by simp)) laid
      have hne : written Operand.text ((gap, .sign s) :: laid) ≠ [] := by
        obtain ⟨d, cs, htext, -⟩ := exists_sign (hsigns s (by simp))
        simp [written_cons, Mark.chars, htext]
      rw [List.head?_append_of_ne_nil _ hne] at hc
      exact isWord_delimiter c (hdelimits c hc)

/-- **The text of a formula becomes that of the pasted one.** -/
theorem expand_written {laid : List (Gap × Mark Operand)} (tail : Gap) (line : Int)
    (hchain : (laid.map Prod.snd).IsChain Mark.Meets)
    (hsigns : ∀ s, .sign s ∈ laid.map Prod.snd → s ∈ signs)
    (hgives : s.Gives value (laid.map Prod.snd)) :
    Template.expand (s.text line) (Template.pieces (written Operand.text laid ++ tail.val)) =
      .ok (pastedText value laid tail) := by
  unfold pastedText
  induction laid with
  | nil => exact Template.expand_pieces (sigil_notMem_gap tail)
  | cons p laid ih =>
    obtain ⟨gap, m⟩ := p
    rw [List.map_cons] at hchain hsigns hgives
    have hrest := ih hchain.tail (fun s h => hsigns s (List.mem_cons_of_mem _ h))
      fun name h => hgives name (List.mem_cons_of_mem _ h)
    rw [written_cons, written_pasteAll_cons, List.append_assoc, List.append_assoc,
      List.append_assoc, List.append_assoc, Template.pieces_append (sigil_notMem_gap gap)]
    rw [String.ofList_append]
    refine Template.expand_literals gap.val ?_
    by_cases href : ∃ name, m = .operand (.reference name)
    · obtain ⟨name, rfl⟩ := href
      obtain ⟨⟨hne, hname⟩, hholds⟩ := hgives name List.mem_cons_self
      have hbehind := not_isWord_behind tail hchain
        fun s h => hsigns s (List.mem_cons_of_mem _ h)
      have hpieces := Template.pieces_reference hne hname hbehind
      rw [String.ofList_toList] at hpieces
      change Template.expand _ (Template.pieces ('$' :: (name.toList ++ _))) = _
      rw [hpieces, pastedChars_reference, String.ofList_append, String.ofList_toList]
      exact Template.expand_reference (hholds.text line) hrest
    · rw [not_exists] at href
      rw [Template.pieces_append (sigil_notMem_chars (fun s h => hsigns s (by simp [h])) href),
        pastedChars_eq href, String.ofList_append]
      exact Template.expand_literals _ hrest

/-! ### Results -/

/-- Powers of ten from this one on are too long to be written. -/
theorem Number.writable_pow {k : Nat} (hk : Number.digitLimit ≤ k) :
    (Number.int (10 ^ k)).writable = false := by
  have habs : ((10 : Int) ^ k).natAbs = 10 ^ k := Int.natAbs_pow 10 k
  have hlong : ¬Number.digitCount (10 ^ k) ≤ Number.digitLimit := by
    rw [Number.digitCount, Nat.length_toDigits_le_iff (by norm_num) (by decide)]
    exact fun hlt => absurd ((Nat.pow_lt_pow_iff_right (by norm_num)).mp hlt) (Nat.not_lt.mpr hk)
  rw [Number.writable, habs]
  exact decide_eq_false hlong

namespace Calc

/-- Squaring takes powers. -/
theorem Quantity.powInt_eq (m : Int) (n : Nat) : powInt m n = m ^ n := by
  fun_induction powInt m n with
  | case1 => exact (pow_zero m).symm
  | case2 n hn root heven ih =>
    have hhalf : n = n / 2 + n / 2 := by omega
    calc root * root = m ^ (n / 2 + n / 2) := by rw [pow_add, ← ih]
      _ = m ^ n := by rw [← hhalf]
  | case3 n hn root hodd ih =>
    have hhalf : n = n / 2 + n / 2 + 1 := by omega
    calc root * root * m = m ^ (n / 2 + n / 2 + 1) := by rw [pow_succ, pow_add, ← ih]
      _ = m ^ n := by rw [← hhalf]

theorem Quantity.pow_int (m : Int) (n : Nat) : (Quantity.int m).pow (.int n) = some (.int (m ^ n)) := by
  simp only [pow, lift, int?]
  rw [if_pos (Int.natCast_nonneg n), Int.toNat_natCast, powInt_eq]

/-- What a calculation gives for the value of the expression `source`. -/
def result (source : String) : Except Stop Quantity → Except CalcError Symbol
  | .error (.refused why) => .error (.refused why)
  | .error .noValue => .error (.noValue source)
  | .ok q =>
    match q.symbol? with
    | some s => .ok s
    | none => .error .notReal

theorem calculate_eq (source : String) : calculate source =
    match Expr.parse? (Text.trim source.toList) with
    | none => .error (.malformed source)
    | some e => result source (evaluate e) := by
  unfold calculate
  cases Expr.parse? (Text.trim source.toList) with
  | none => rfl
  | some e =>
    rcases evaluate e with (why | -) | q
    · rfl
    · rfl
    · rfl

/-- What a calculation gives for a formula with this value, whose parentheses nest so deep. -/
def answer (source : String) (depth : Nat) (v : Except Stop Quantity) : Except CalcError Symbol :=
  if depth ≤ nestingLimit then result source v else .error (.malformed source)

theorem calculate_written {e : Formula Numeral .sum} {laid : List (Gap × Mark Numeral)} {tail : Gap}
    (he : e.marks = laid.map Prod.snd) :
    calculate (String.ofList (written Numeral.text laid ++ tail.val)) =
      answer (String.ofList (written Numeral.text laid ++ tail.val)) e.depth
        (e.value fun n => ofLiteral n.value) := by
  rw [calculate_eq, String.toList_ofList, parse?_written he, answer]
  by_cases hdepth : e.depth ≤ nestingLimit
  · rw [if_pos hdepth, if_pos hdepth, ← e.evaluate_expr Numeral.value]
  · rw [if_neg hdepth, if_neg hdepth]

/-- **A pasted formula is calculated as one whose bases may have signs.** -/
theorem calculate_pasted (value : String → PlainNumber) {e : Formula Operand .sum}
    {laid : List (Gap × Mark Operand)} (tail : Gap) (he : e.marks = laid.map Prod.snd) :
    calculate (pastedText value laid tail) = answer (pastedText value laid tail) e.depth
      (e.valueWith (Operand.evaluate value) (Operand.magnitude? value)) := by
  have hmarks : (e.paste value).marks = (pasteAll value laid).map Prod.snd := by
    rw [map_pasteAll, ← he, e.flatMap_marks, Formula.leads_sum, Formula.minus_false, List.nil_append]
  rw [pastedText, calculate_written hmarks, Formula.depth_paste, e.valueWith_eq_paste, Formula.leads_sum,
    Formula.negated_false]

end Calc

/-! ### The directive -/

/-- The expression that the argument of a calculation holds. -/
def Symbol.expression? : Symbol → Option String
  | .quoted s | .word s => some s
  | .number n => some n.text
  | _ => none

namespace Expansion

variable {c : Context} {d argument : Token} {i : Input} {ts : List Token} {source text : String}

/-- What the directive `d` before `i` stands for when its calculation has this result. -/
def calculated (d : Token) (i : Input) : Except CalcError Symbol → Except Failure (List Token)
  | .error why => .error (misuse d i (.calculation why))
  | .ok (.number n) => if n.writable then .ok [⟨.number n, d.line⟩] else .error .numeralTooLong
  | .ok s => .ok [⟨s, d.line⟩]

theorem calculated_long {n : Int} (h : (Number.int n).writable = false) :
    calculated d i (answer text 0 (.ok (.int n))) = .error .numeralTooLong := by
  change (if (Number.int n).writable = true then _ else _) = _
  rw [if_neg (by simp [h])]

/-- The expression is calculated when its variables are replaced. -/
theorem calculate_expanded (htokens : i.tokens = argument :: ts)
    (hsource : argument.symbol.expression? = some source)
    (htext : c.surroundings.expandText source d.line = .ok text)
    (events : List Event) : outcome (calculate c d i) events =
      ((calculated d i (Calc.calculate text)).map (·, i.after argument ts), events) := by
  have hexpect : i.expect "#calc expression" = .ok _ :=
    Input.expect_ok.mpr (Input.next_of_tokens htokens)
  obtain ⟨symbol, line⟩ := argument
  unfold outcome calculate
  rw [exec_bind, exec_lift, hexpect]
  cases symbol with
  | quoted s | word s | number n =>
    obtain rfl := Option.some.inj hsource
    dsimp only
    rw [pure_bind, exec_bind, exec_lift, htext]
    dsimp only
    split
    · next why hwhy =>
      rw [hwhy]
      rfl
    · next x hx =>
      rw [hx, calculated]
      split <;> rfl
    · next symbol hne hsymbol =>
      rw [hsymbol, calculated.eq_3 d i symbol hne]
      rfl
  | _ => contradiction

/-- The text of a formula is calculated as one whose bases may have signs. -/
theorem calculate_laid {e : Formula Operand .sum} {laid : List (Gap × Mark Operand)} (tail : Gap)
    (htokens : i.tokens = argument :: ts) (hargument : argument.symbol.expression? = some source)
    (hsource : source.toList = written Operand.text laid ++ tail.val)
    (hlaid : laid.map Prod.snd = e.marks) (hgives : c.surroundings.Gives value e.marks)
    (events : List Event) : outcome (calculate c d i) events =
      ((calculated d i (answer (pastedText value laid tail) e.depth
        (e.valueWith (Operand.evaluate value) (Operand.magnitude? value)))).map
          (·, i.after argument ts), events) := by
  have horderly := e.orderly
  rw [← hlaid] at horderly hgives
  have hexpand := expand_written tail d.line horderly.chain horderly.signs hgives
  rw [← hsource] at hexpand
  have hanswer := calculate_pasted value tail hlaid.symm
  have hexpanded := calculate_expanded htokens hargument hexpand events
  rwa [hanswer] at hexpanded

/-- **A calculation of a formula gives its value**, with each variable as one operand. Only a number
with a minus sign that is the base of a power counts as its magnitude, and the sign as that of the
power; and parentheses that nest too deep are an error. -/
theorem calculate_formula {e : Formula Operand .sum} (laid : List (Gap × Mark Operand)) (tail : Gap)
    (htokens : i.tokens = argument :: ts) (hargument : argument.symbol.expression? = some source)
    (hsource : source.toList = written Operand.text laid ++ tail.val)
    (hlaid : laid.map Prod.snd = e.marks) (hgives : c.surroundings.Gives value e.marks) :
    (∀ events, outcome (calculate c d i) events =
      ((calculated d i (answer (pastedText value laid tail) e.depth
        (e.valueWith (Operand.evaluate value) (Operand.magnitude? value)))).map
          (·, i.after argument ts), events)) ∧
    ((∀ a ∈ e.bases, a.magnitude? value = none) →
      e.valueWith (Operand.evaluate value) (Operand.magnitude? value) =
        e.value (Operand.evaluate value)) := by
  exact ⟨calculate_laid tail htokens hargument hsource hlaid hgives, e.valueWith_eq _⟩

/-- The dictionary in which `x` is -2. -/
def smallContext : Context :=
  ⟨bareSetup, [{ entries := [.primitive { keyword := "x" } [⟨.number (.int (-2)), 1⟩]] }]⟩

def smallValue : String → PlainNumber := fun _ => ⟨.int (-2), by decide, nofun⟩

theorem gives_small {ms : List (Mark Operand)}
    (h : ∀ name, .operand (.reference name) ∈ ms → name = "x") :
    smallContext.surroundings.Gives smallValue ms := by
  intro name hname
  obtain rfl := h name hname
  refine ⟨⟨by decide, ?_⟩, { keyword := "x" }, 1, rfl⟩
  intro c hc
  obtain rfl : c = 'x' := List.mem_singleton.mp hc
  rfl

def two : Numeral := ⟨['2'], .int 2, rfl⟩

/-- `2 - $x` -/
def difference : Formula Operand .sum :=
  .sum .sub (.term (.factor (.bare (.operand (.numeral two)))))
    (.factor (.bare (.operand (.reference "x"))))

def calculation (source : String) : Input := .ofTokens "" [⟨.quoted source, 1⟩]

/-- Calculates an expression in this dictionary. -/
def calculateSmall (source : String) : Except Failure (List Token) :=
  (outcome (calculate smallContext ⟨.directive "calc", 1⟩ (calculation source)) []).1.map Prod.fst

theorem calculateSmall_eq {source : String} {r : Except Failure (List Token)} {j : Input}
    {events : List Event}
    (h : outcome (calculate smallContext ⟨.directive "calc", 1⟩ (calculation source)) [] =
      (r.map (·, j), events)) : calculateSmall source = r := by
  rw [calculateSmall, h]
  cases r <;> rfl

/-- In particular the sign of a number does not run together with one before it. -/
theorem calculate_difference : difference.value (Operand.evaluate smallValue) = .ok (.int 4) ∧
    calculateSmall " 2 - $x" = .ok [⟨.number (.int 4), 1⟩] := by
  have hgives : smallContext.surroundings.Gives smallValue difference.marks :=
    gives_small (by simp [difference, Formula.marks])
  obtain ⟨h, hvalue⟩ := calculate_formula (d := ⟨.directive "calc", 1⟩)
    (i := calculation " 2 - $x") difference.spaced ⟨[], by simp⟩ rfl rfl rfl difference.map_spaced
    hgives
  rw [hvalue (by simp [difference, Formula.bases])] at h
  exact ⟨rfl, calculateSmall_eq (h [])⟩

/-- `$x ** 2` -/
def square : Formula Operand .sum :=
  .term (.factor (.power (.operand (.reference "x")) (.bare (.operand (.numeral two)))))

/-- `2` in so many parentheses -/
def nested : Nat → Formula Operand .atom
  | 0 => .operand (.numeral two)
  | n + 1 => .group (.term (.factor (.bare (nested n))))

theorem notMem_nested (n : Nat) (name : String) :
    .operand (.reference name) ∉ (nested n).marks := by
  induction n with
  | zero => simp [nested, Formula.marks]
  | succ n ih => simpa [nested, Formula.marks] using ih

def deep (n : Nat) : Formula Operand .sum := .term (.factor (.bare (nested n)))

theorem depth_deep (n : Nat) : (deep n).depth = n := by
  induction n with
  | zero => rfl
  | succ n ih => exact congrArg (· + 1) ih

theorem value_deep (n : Nat) : (deep n).value (Operand.evaluate smallValue) = .ok (.int 2) := by
  induction n with
  | zero => rfl
  | succ n ih => exact ih

/-- `10 ** 4300` -/
def huge : Formula Operand .sum :=
  .term (.factor (.power (.operand (.numeral ⟨"10".toList, .int 10, rfl⟩))
    (.bare (.operand (.numeral ⟨"4300".toList, .int 4300, rfl⟩)))))

theorem value_huge : huge.valueWith (Operand.evaluate smallValue) (Operand.magnitude? smallValue) =
    .ok (.int (10 ^ 4300)) := by
  have hpow := congrArg valued (Quantity.pow_int 10 4300)
  exact hpow

theorem calculateSmall_spaced (e : Formula Operand .sum)
    (h : ∀ name, .operand (.reference name) ∈ e.marks → name = "x") :
    calculateSmall (String.ofList (written Operand.text e.spaced)) =
      calculated ⟨.directive "calc", 1⟩ (calculation (String.ofList (written Operand.text e.spaced)))
        (answer (pastedText smallValue e.spaced ⟨[], by simp⟩) e.depth
          (e.valueWith (Operand.evaluate smallValue) (Operand.magnitude? smallValue))) := by
  have hsource := (String.toList_ofList (l := written Operand.text e.spaced)).trans
    (List.append_nil _).symm
  exact calculateSmall_eq
    (calculate_laid ⟨[], by simp⟩ rfl rfl hsource e.map_spaced (gives_small h) [])

/-- A negative base, parentheses too deep and an integer too long do not give what formulas say. -/
theorem calculate_limits :
    (square.value (Operand.evaluate smallValue) = .ok (.int 4) ∧
      calculateSmall (String.ofList (written Operand.text square.spaced)) =
        .ok [⟨.number (.int (-4)), 1⟩]) ∧
    ((deep 201).value (Operand.evaluate smallValue) = .ok (.int 2) ∧
      ∃ failure, calculateSmall (String.ofList (written Operand.text (deep 201).spaced)) =
        .error failure) ∧
    (huge.value (Operand.evaluate smallValue) = .ok (.int (10 ^ 4300)) ∧
      calculateSmall (String.ofList (written Operand.text huge.spaced)) =
        .error .numeralTooLong) := by
  refine ⟨⟨?_, ?_⟩, ⟨value_deep 201, ?_⟩, value_huge, ?_⟩
  · exact congrArg valued (Quantity.pow_int (-2) 2)
  · have h := calculateSmall_spaced square (by simp [square, Formula.marks])
    have hvalue : square.valueWith (Operand.evaluate smallValue) (Operand.magnitude? smallValue) =
        .ok (.int (-4)) :=
      congrArg (fun q => (valued q).bind fun q => valued (Quantity.neg q)) (Quantity.pow_int 2 2)
    rw [h, hvalue]
    rfl
  · have h := calculateSmall_spaced (deep 201) fun name h => (notMem_nested 201 name h).elim
    rw [h, depth_deep, answer, if_neg (by decide)]
    exact ⟨_, rfl⟩
  · have h := calculateSmall_spaced huge (by simp [huge, Formula.marks])
    rw [h, value_huge]
    exact calculated_long (Number.writable_pow (Nat.le_refl _))

end Expansion

end CaseDict
