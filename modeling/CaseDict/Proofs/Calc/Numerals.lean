import CaseDict.Calc.Lexeme
import Mathlib
/-! # Numerals in formulas

A number that is written in a formula is followed by a space, by a sign, or by nothing, and what is
read of it does not depend on which (`number_append`). So a `Numeral`, a text that is a number, is
read as this number wherever it stands in a formula. -/

namespace CaseDict.Calc

open Text (valueIn isHexDigit isOctalDigit)

/-! ### What follows a number -/

/-- The characters that may follow an operand. -/
def delimiters : List Char := [' ', '\t', '+', '-', '*', '/', '%', '(', ')']

/-- Nothing follows, or a space or sign. -/
def Delimits (rest : List Char) : Prop := ∀ c, rest.head? = some c → c ∈ delimiters

variable {α : Type} {rest : List Char}

theorem Delimits.head (h : Delimits rest) {p : Char → Bool} (hp : ∀ c ∈ delimiters, p c = false) :
    (rest.head?.map p).getD false = false := by
  cases hc : rest.head? with
  | none => rfl
  | some c => exact hp c (h c hc)

/-- No delimiter has the property, so it does not matter whether one follows. -/
theorem head_append (h : Delimits rest) {p : Char → Bool} (hp : ∀ c ∈ delimiters, p c = false)
    (cs : List Char) :
    ((cs ++ rest).head?.map p).getD false = (cs.head?.map p).getD false := by
  cases cs with
  | nil => exact h.head hp
  | cons c cs => rfl

theorem Delimits.ne (h : Delimits rest) {c : Char} (hc : c ∉ delimiters) (more : List Char) :
    rest ≠ c :: more := by
  rintro rfl
  exact hc (h c rfl)

theorem Delimits.append_ne (h : Delimits rest) {c : Char} (hc : c ∉ delimiters) {cs : List Char}
    (hcs : ∀ more, cs ≠ c :: more) (more : List Char) : cs ++ rest ≠ c :: more := by
  cases cs with
  | nil => exact h.ne hc more
  | cons d cs =>
    intro heq
    exact hcs cs (by rw [(List.cons.inj heq).1])

/-- What a reader takes from the front of a text does not change when `rest` follows. -/
def Steady (rest : List Char) (read : List Char → Option (α × List Char)) : Prop :=
  ∀ cs x left, read cs = some (x, left) → read (cs ++ rest) = some (x, left ++ rest)

theorem Steady.bind {β : Type} {f : List Char → Option (α × List Char)}
    {g : α → List Char → Option (β × List Char)} (hf : Steady rest f) (hg : ∀ x, Steady rest (g x)) :
    Steady rest fun cs => (f cs).bind fun p => g p.1 p.2 := by
  intro cs y left hcs
  obtain ⟨⟨x, left'⟩, hx, hy⟩ := Option.bind_eq_some_iff.mp hcs
  dsimp only
  rw [hf _ _ _ hx, Option.bind_some]
  exact hg x _ _ _ hy

theorem digits?_append {isDigit : Char → Bool} (h : Delimits rest)
    (hd : ∀ c ∈ delimiters, isDigit c = false) : Steady rest (digits? isDigit) := by
  intro cs
  fun_induction digits? isDigit cs with
  | case1 c cs hc ih =>
    intro ds left hcs
    obtain ⟨⟨ds', left'⟩, hds, heq⟩ := Option.map_eq_some_iff.mp hcs
    obtain ⟨rfl, rfl⟩ := Prod.mk.inj heq
    rw [List.cons_append, List.cons_append, digits?, if_pos hc, ih _ _ hds]
    rfl
  | case2 c cs hc => simp
  | case3 c d cs hne hc => simp
  | case4 c d cs hne hc hdd ih =>
    intro ds left hcs
    obtain ⟨⟨ds', left'⟩, hds, heq⟩ := Option.map_eq_some_iff.mp hcs
    obtain ⟨rfl, rfl⟩ := Prod.mk.inj heq
    rw [List.cons_append, List.cons_append, digits?.eq_2 _ _ _ _ hne, if_neg hc, if_pos hdd,
      ← List.cons_append, ih _ _ hds]
    rfl
  | case5 c d cs hne hc hdd =>
    intro ds left hcs
    obtain ⟨rfl, rfl⟩ := Prod.mk.inj (Option.some.inj hcs)
    rw [List.cons_append, List.cons_append, digits?.eq_2 _ _ _ _ hne, if_neg hc, if_neg hdd]
  | case6 c hc =>
    intro ds left hcs
    obtain ⟨rfl, rfl⟩ := Prod.mk.inj (Option.some.inj hcs)
    cases rest with
    | nil => simp [digits?, hc]
    | cons d more =>
      have hne : d ≠ '_' := fun hd => h.ne (c := '_') (by decide) more (by rw [hd])
      rw [List.singleton_append, digits?.eq_2 _ _ _ _ hne, if_neg (by simpa using hc),
        if_neg (by simp [hd d (h d rfl)]), List.nil_append]
  | case7 c hc => simp
  | case8 => simp

theorem isDigit_delimiter : ∀ c ∈ delimiters, c.isDigit = false := by simp [delimiters]

theorem isHexDigit_delimiter : ∀ c ∈ delimiters, isHexDigit c = false := by
  simp [delimiters, isHexDigit]

theorem isOctalDigit_delimiter : ∀ c ∈ delimiters, isOctalDigit c = false := by
  simp [delimiters, isOctalDigit]

theorem isBinaryDigit_delimiter : ∀ c ∈ delimiters, (c == '0' || c == '1') = false := by
  simp [delimiters]

theorem mayContinueName_delimiter : ∀ c ∈ delimiters, mayContinueName c = false := by
  simp [delimiters, mayContinueName]

theorem endsNumber_append (h : Delimits rest) {cs : List Char} (hcs : endsNumber cs = true) :
    endsNumber (cs ++ rest) = true := by
  unfold endsNumber at hcs ⊢
  rw [Bool.or_eq_true] at hcs ⊢
  rcases hcs with hword | hhead
  · left
    obtain ⟨w, hw, hprefix⟩ := List.any_eq_true.mp hword
    refine List.any_eq_true.mpr ⟨w, hw, ?_⟩
    rw [List.isPrefixOf_iff_prefix] at hprefix ⊢
    exact hprefix.trans (List.prefix_append ..)
  · right
    cases cs with
    | nil => simp [h.head mayContinueName_delimiter]
    | cons c cs => exact hhead

/-- The sign that an exponent may have, and what follows. -/
def exponentSign : List Char → Option Bool × List Char
  | '+' :: ds => (some false, ds)
  | '-' :: ds => (some true, ds)
  | ds => (none, ds)

theorem exponentSign_append {cs : List Char} (h : cs ≠ []) (rest : List Char) :
    exponentSign (cs ++ rest) = ((exponentSign cs).1, (exponentSign cs).2 ++ rest) := by
  obtain ⟨c, cs, rfl⟩ := List.exists_cons_of_ne_nil h
  rw [List.cons_append]
  unfold exponentSign
  split
  · next heq =>
    obtain ⟨rfl, rfl⟩ := List.cons.inj heq
    rfl
  · next heq =>
    obtain ⟨rfl, rfl⟩ := List.cons.inj heq
    rfl
  · next hplus hminus =>
    split
    · next heq => exact absurd (by rw [(List.cons.inj heq).1]) (hplus (cs ++ rest))
    · next heq => exact absurd (by rw [(List.cons.inj heq).1]) (hminus (cs ++ rest))
    · rfl

theorem exponent?_cons (e : Char) (cs : List Char) :
    exponent? (e :: cs) =
      if e = 'e' || e = 'E' then
        if (exponentSign cs).1.isNone && !((exponentSign cs).2.head?.map Char.isDigit).getD false then
          if endsNumber (e :: cs) then some (none, e :: cs) else none
        else (digits? Char.isDigit (exponentSign cs).2).map fun (ds, left) =>
          (some (if (exponentSign cs).1 == some true then -(valueIn 10 ds : Int) else valueIn 10 ds),
            left)
      else some (none, e :: cs) := rfl

theorem exponent?_of_ne {cs : List Char} (hlower : ∀ more, cs ≠ 'e' :: more)
    (hupper : ∀ more, cs ≠ 'E' :: more) : exponent? cs = some (none, cs) := by
  cases cs with
  | nil => rfl
  | cons c cs =>
    have hc : ¬(c = 'e' || c = 'E') := by
      simp only [Bool.or_eq_true, decide_eq_true_eq]
      rintro (rfl | rfl)
      · exact hlower cs rfl
      · exact hupper cs rfl
    rw [exponent?_cons, if_neg hc]

theorem exponent?_append (h : Delimits rest) : Steady rest exponent? := by
  intro cs x left hcs
  rcases cs with _ | ⟨e, cs⟩
  · obtain ⟨rfl, rfl⟩ := Prod.mk.inj (Option.some.inj hcs)
    exact exponent?_of_ne (h.ne (by decide)) (h.ne (by decide))
  rw [exponent?_cons] at hcs
  rw [List.cons_append, exponent?_cons]
  split at hcs
  · next he =>
    rw [if_pos he]
    cases cs with
    | nil =>
      -- the letter alone does not end a number
      have hends : endsNumber [e] = false := by
        simp only [Bool.or_eq_true, decide_eq_true_eq] at he
        rcases he with rfl | rfl <;> decide
      simp [exponentSign, hends] at hcs
    | cons c cs =>
      have hsign := exponentSign_append (List.cons_ne_nil c cs) rest
      generalize exponentSign (c :: cs) = p at hcs hsign
      obtain ⟨sign, ds⟩ := p
      dsimp only at hcs hsign
      rw [hsign]
      dsimp only
      rw [head_append h isDigit_delimiter]
      split at hcs
      · next hnone =>
        split at hcs
        · next hends =>
          obtain ⟨rfl, rfl⟩ := Prod.mk.inj (Option.some.inj hcs)
          rw [if_pos hnone, ← List.cons_append, if_pos (endsNumber_append h hends)]
        · contradiction
      · next hsome =>
        obtain ⟨⟨ds', left'⟩, hds, heq⟩ := Option.map_eq_some_iff.mp hcs
        obtain ⟨rfl, rfl⟩ := Prod.mk.inj heq
        rw [if_neg hsome, digits?_append h isDigit_delimiter _ _ _ hds]
        rfl
  · next he =>
    obtain ⟨rfl, rfl⟩ := Prod.mk.inj (Option.some.inj hcs)
    rw [if_neg he, List.cons_append]

/-- The point and the digits after it, if there is a point. -/
def fraction? : List Char → Option ((Bool × List Char) × List Char)
  | '.' :: cs =>
    if (cs.head?.map Char.isDigit).getD false then
      (digits? Char.isDigit cs).map fun (ds, left) => ((true, ds), left)
    else some ((true, []), cs)
  | cs => some ((false, []), cs)

/-- The number of which all parts were read. -/
def ended? (whole : List Char) (point : Bool) (fraction : List Char) (e : Option Int) :
    List Char → Option (Literal × List Char)
  | 'j' :: cs | 'J' :: cs => do
    guard (endsNumber cs)
    return (.imaginary (floatOf whole fraction (e.getD 0)), cs)
  | cs => do
    guard (endsNumber cs)
    if point || e.isSome then return (.float (floatOf whole fraction (e.getD 0)), cs)
    if whole.all (· == '0') then return (.int 0, cs)
    guard (whole.length ≤ Number.digitLimit && whole.head? != some '0')
    return (.int (valueIn 10 whole), cs)

theorem decimalTail_eq (whole cs : List Char) :
    decimalTail whole cs = (fraction? cs).bind fun p => (exponent? p.2).bind fun q =>
      ended? whole p.1.1 p.1.2 q.1 q.2 := by
  fun_cases fraction? cs with
  | case1 cs hdigit =>
    rw [Option.bind_map]
    simp only [decimalTail, hdigit, if_true]
    cases digits? Char.isDigit cs <;> rfl
  | case2 cs hdigit =>
    simp only [decimalTail, hdigit]
    rfl
  | case3 cs hpoint =>
    simp only [decimalTail]
    rfl

theorem fraction?_of_ne {cs : List Char} (h : ∀ more, cs ≠ '.' :: more) :
    fraction? cs = some ((false, []), cs) := by
  unfold fraction?
  split
  · next more => exact absurd rfl (h more)
  · rfl

theorem fraction?_append (h : Delimits rest) : Steady rest fraction? := by
  intro cs x left hcs
  unfold fraction? at hcs
  split at hcs
  · next cs =>
    rw [List.cons_append, fraction?, head_append h isDigit_delimiter]
    split at hcs
    · next hdigit =>
      obtain ⟨⟨ds, left'⟩, hds, heq⟩ := Option.map_eq_some_iff.mp hcs
      obtain ⟨rfl, rfl⟩ := Prod.mk.inj heq
      rw [if_pos hdigit, digits?_append h isDigit_delimiter _ _ _ hds]
      rfl
    · next hdigit =>
      obtain ⟨rfl, rfl⟩ := Prod.mk.inj (Option.some.inj hcs)
      rw [if_neg hdigit]
  · next hpoint =>
    obtain ⟨rfl, rfl⟩ := Prod.mk.inj (Option.some.inj hcs)
    exact fraction?_of_ne (h.append_ne (by decide) hpoint)

/-- The real number of given parts. -/
def real? (whole : List Char) (point : Bool) (fraction : List Char) (e : Option Int) :
    Option Literal :=
  if point || e.isSome then some (.float (floatOf whole fraction (e.getD 0)))
  else if whole.all (· == '0') then some (.int 0)
  else if whole.length ≤ Number.digitLimit && whole.head? != some '0' then
    some (.int (valueIn 10 whole))
  else none

theorem ended?_imaginary {j : Char} (hj : j ∈ ['j', 'J']) (whole : List Char) (point : Bool)
    (fraction : List Char) (e : Option Int) (cs : List Char) :
    ended? whole point fraction e (j :: cs) =
      if endsNumber cs then some (.imaginary (floatOf whole fraction (e.getD 0)), cs) else none := by
  have hdo : ended? whole point fraction e (j :: cs) = (do
      guard (endsNumber cs)
      return (.imaginary (floatOf whole fraction (e.getD 0)), cs)) := by
    rcases List.mem_pair.mp hj with rfl | rfl <;> rfl
  rw [hdo]
  by_cases hends : endsNumber cs = true <;> simp [hends]

theorem ended?_real {cs : List Char} (h : ∀ j ∈ ['j', 'J'], ∀ more, cs ≠ j :: more)
    (whole : List Char) (point : Bool) (fraction : List Char) (e : Option Int) :
    ended? whole point fraction e cs =
      if endsNumber cs then (real? whole point fraction e).map (·, cs) else none := by
  have hlower := h 'j' (by simp)
  have hupper := h 'J' (by simp)
  simp only [ended?]
  by_cases hends : endsNumber cs = true
  · simp only [hends, guard_true, if_true, real?]
    split
    · rfl
    split
    · rfl
    split
    · next hlimit => simp [hlimit]
    · next hlimit => simp [hlimit]
  · simp [hends]

theorem ended?_append (h : Delimits rest) (whole : List Char) (point : Bool)
    (fraction : List Char) (e : Option Int) : Steady rest (ended? whole point fraction e) := by
  intro cs x left hcs
  by_cases hj : ∃ j ∈ ['j', 'J'], ∃ more, cs = j :: more
  · obtain ⟨j, hj, cs, rfl⟩ := hj
    rw [ended?_imaginary hj] at hcs
    rw [List.cons_append, ended?_imaginary hj]
    split at hcs
    · next hends =>
      obtain ⟨rfl, rfl⟩ := Prod.mk.inj (Option.some.inj hcs)
      rw [if_pos (endsNumber_append h hends)]
    · contradiction
  · have hne : ∀ j ∈ ['j', 'J'], ∀ more, cs ≠ j :: more := fun j hm more hcs =>
      hj ⟨j, hm, more, hcs⟩
    have hne' : ∀ j ∈ ['j', 'J'], ∀ more, cs ++ rest ≠ j :: more := fun j hm =>
      h.append_ne (by rcases List.mem_pair.mp hm with rfl | rfl <;> decide) (hne j hm)
    rw [ended?_real hne] at hcs
    rw [ended?_real hne']
    split at hcs
    · next hends =>
      obtain ⟨l, hl, heq⟩ := Option.map_eq_some_iff.mp hcs
      obtain ⟨rfl, rfl⟩ := Prod.mk.inj heq
      rw [if_pos (endsNumber_append h hends), hl]
      rfl
    · contradiction

theorem decimalTail_append (h : Delimits rest) (whole : List Char) :
    Steady rest (decimalTail whole) := by
  rw [funext (decimalTail_eq whole)]
  have hparts (x : Bool × List Char) := (exponent?_append h).bind (ended?_append h whole x.1 x.2)
  exact (fraction?_append h).bind hparts

/-- What follows the underscore that may stand after a base prefix. -/
def afterUnderscore : List Char → List Char
  | '_' :: cs => cs
  | cs => cs

theorem afterUnderscore_append (h : Delimits rest) (cs : List Char) :
    afterUnderscore (cs ++ rest) = afterUnderscore cs ++ rest := by
  fun_cases afterUnderscore cs with
  | case1 cs => rfl
  | case2 cs hne =>
    have hne' := h.append_ne (c := '_') (by decide) hne
    unfold afterUnderscore
    split
    · next more heq => exact absurd heq (hne' more)
    · rfl

theorem basedInteger_eq (base : Nat) (isDigit : Char → Bool) (cs : List Char) :
    basedInteger base isDigit cs = (digits? isDigit (afterUnderscore cs)).bind fun p =>
      if endsNumber p.2 && !(p.2.head?.map Char.isDigit).getD false then
        some (.int (valueIn base p.1), p.2)
      else none := by
  have hdo : basedInteger base isDigit cs = (digits? isDigit (afterUnderscore cs)).bind fun p => do
      guard (endsNumber p.2 && !(p.2.head?.map Char.isDigit).getD false)
      return (.int (valueIn base p.1), p.2) := by
    fun_cases afterUnderscore cs with
    | case1 cs => rfl
    | case2 cs hne =>
      simp only [basedInteger]
      rfl
  rw [hdo]
  congr
  funext p
  split
  · next hends => simp [hends]
  · next hends => simp [hends]

theorem basedInteger_append (h : Delimits rest) (base : Nat) {isDigit : Char → Bool}
    (hd : ∀ c ∈ delimiters, isDigit c = false) : Steady rest (basedInteger base isDigit) := by
  intro cs x left hcs
  rw [basedInteger_eq] at hcs ⊢
  obtain ⟨⟨ds, left'⟩, hds, hcs⟩ := Option.bind_eq_some_iff.mp hcs
  rw [afterUnderscore_append h, digits?_append h hd _ _ _ hds, Option.bind_some]
  dsimp only at hcs ⊢
  rw [head_append h isDigit_delimiter]
  split at hcs
  · next hends =>
    obtain ⟨rfl, rfl⟩ := Prod.mk.inj (Option.some.inj hcs)
    simp only [Bool.and_eq_true] at hends
    rw [if_pos (by simp [endsNumber_append h hends.1, hends.2])]
  · contradiction

/-- The text begins with the prefix of another base. -/
def Prefixed (cs : List Char) : Prop :=
  ∃ b ∈ ['x', 'X', 'o', 'O', 'b', 'B'], ∃ more, cs = '0' :: b :: more

theorem not_prefixed {cs : List Char} (h1 : ∀ more, cs ≠ '0' :: 'x' :: more)
    (h2 : ∀ more, cs ≠ '0' :: 'X' :: more) (h3 : ∀ more, cs ≠ '0' :: 'o' :: more)
    (h4 : ∀ more, cs ≠ '0' :: 'O' :: more) (h5 : ∀ more, cs ≠ '0' :: 'b' :: more)
    (h6 : ∀ more, cs ≠ '0' :: 'B' :: more) : ¬Prefixed cs := by
  rintro ⟨b, hb, more, rfl⟩
  simp only [List.mem_cons, List.not_mem_nil, or_false] at hb
  rcases hb with rfl | rfl | rfl | rfl | rfl | rfl
  exacts [h1 _ rfl, h2 _ rfl, h3 _ rfl, h4 _ rfl, h5 _ rfl, h6 _ rfl]

theorem Prefixed.of_append (h : Delimits rest) {cs : List Char} (hcs : Prefixed (cs ++ rest)) :
    Prefixed cs := by
  obtain ⟨b, hb, more, heq⟩ := hcs
  have hdelimiter : b ∉ delimiters := by
    simp only [List.mem_cons, List.not_mem_nil, or_false] at hb
    rcases hb with rfl | rfl | rfl | rfl | rfl | rfl <;> decide
  match cs, heq with
  | [], heq => exact absurd heq (h.ne (by decide) _)
  | [c], heq => exact absurd (List.cons.inj heq).2 (h.ne hdelimiter _)
  | c :: d :: cs, heq =>
    obtain ⟨rfl, htail⟩ := List.cons.inj heq
    obtain ⟨rfl, -⟩ := List.cons.inj htail
    exact ⟨d, hb, cs, rfl⟩

theorem number_decimal {cs : List Char} (h : ¬Prefixed cs) (hpoint : ∀ more, cs ≠ '.' :: more) :
    number cs = (digits? Char.isDigit cs).bind fun p => decimalTail p.1 p.2 := by
  have hx (b : Char) (hb : b ∈ ['x', 'X', 'o', 'O', 'b', 'B']) (more : List Char)
      (heq : cs = '0' :: b :: more) : False := h ⟨b, hb, more, heq⟩
  have h1 := hx 'x' (by simp)
  have h2 := hx 'X' (by simp)
  have h3 := hx 'o' (by simp)
  have h4 := hx 'O' (by simp)
  have h5 := hx 'b' (by simp)
  have h6 := hx 'B' (by simp)
  simp only [number]
  rfl

/-- **What follows does not change a number.** -/
theorem number_append (h : Delimits rest) : Steady rest number := by
  intro cs x left hcs
  fun_cases number cs with
  | case1 cs | case2 cs => exact basedInteger_append h 16 isHexDigit_delimiter _ _ _ hcs
  | case3 cs | case4 cs => exact basedInteger_append h 8 isOctalDigit_delimiter _ _ _ hcs
  | case5 cs | case6 cs => exact basedInteger_append h 2 isBinaryDigit_delimiter _ _ _ hcs
  | case7 cs => exact decimalTail_append h [] ('.' :: cs) x left hcs
  | case8 cs h1 h2 h3 h4 h5 h6 hpoint =>
    have hcs' := not_prefixed h1 h2 h3 h4 h5 h6
    rw [number_decimal hcs' hpoint] at hcs
    rw [number_decimal (fun hp => hcs' (.of_append h hp)) (h.append_ne (by decide) hpoint)]
    obtain ⟨⟨whole, tail⟩, hw, hcs⟩ := Option.bind_eq_some_iff.mp hcs
    rw [digits?_append h isDigit_delimiter _ _ _ hw, Option.bind_some]
    exact decimalTail_append h whole _ _ _ hcs

/-! ### The characters of numbers -/

/-- The characters that numbers consist of. -/
def ofNumber (c : Char) : Bool := c.isAlphanum || ['_', '.', '+', '-'].contains c

/-- A reader takes only such characters. -/
def Takes (read : List Char → Option (α × List Char)) : Prop :=
  ∀ cs x left, read cs = some (x, left) → ∃ taken, cs = taken ++ left ∧ taken.all ofNumber = true

theorem Takes.bind {β : Type} {f : List Char → Option (α × List Char)}
    {g : α → List Char → Option (β × List Char)} (hf : Takes f) (hg : ∀ x, Takes (g x)) :
    Takes fun cs => (f cs).bind fun p => g p.1 p.2 := by
  intro cs y left hcs
  obtain ⟨⟨x, left'⟩, hx, hy⟩ := Option.bind_eq_some_iff.mp hcs
  obtain ⟨taken, rfl, htaken⟩ := hf _ _ _ hx
  obtain ⟨taken', htail, htaken'⟩ := hg x _ _ _ hy
  refine ⟨taken ++ taken', ?_, ?_⟩
  · rw [List.append_assoc, ← htail]
  · rw [List.all_append, htaken, htaken']
    rfl

theorem digits?_takes {isDigit : Char → Bool} (hd : ∀ c, isDigit c = true → ofNumber c = true) :
    Takes (digits? isDigit) := by
  intro cs
  fun_induction digits? isDigit cs with
  | case1 c cs hc ih =>
    intro ds left hcs
    obtain ⟨⟨ds', left'⟩, hds, heq⟩ := Option.map_eq_some_iff.mp hcs
    obtain ⟨rfl, rfl⟩ := Prod.mk.inj heq
    obtain ⟨taken, rfl, htaken⟩ := ih _ _ hds
    refine ⟨c :: '_' :: taken, rfl, ?_⟩
    rw [List.all_cons, List.all_cons, hd c hc, htaken]
    rfl
  | case2 c cs hc => simp
  | case3 c d cs hne hc => simp
  | case4 c d cs hne hc hdd ih =>
    intro ds left hcs
    obtain ⟨⟨ds', left'⟩, hds, heq⟩ := Option.map_eq_some_iff.mp hcs
    obtain ⟨rfl, rfl⟩ := Prod.mk.inj heq
    obtain ⟨taken, htail, htaken⟩ := ih _ _ hds
    refine ⟨c :: taken, by rw [htail, List.cons_append], ?_⟩
    rw [List.all_cons, hd c (by simpa using hc), htaken, Bool.true_and]
  | case5 c d cs hne hc hdd =>
    intro ds left hcs
    obtain ⟨rfl, rfl⟩ := Prod.mk.inj (Option.some.inj hcs)
    exact ⟨[c], rfl, by simp [hd c (by simpa using hc)]⟩
  | case6 c hc =>
    intro ds left hcs
    obtain ⟨rfl, rfl⟩ := Prod.mk.inj (Option.some.inj hcs)
    exact ⟨[c], rfl, by simp [hd c hc]⟩
  | case7 c hc => simp
  | case8 => simp

theorem ofNumber_isDigit (c : Char) (hc : c.isDigit = true) : ofNumber c = true := by
  simp [ofNumber, Char.isAlphanum, hc]

theorem ofNumber_isHexDigit (c : Char) (hc : isHexDigit c = true) : ofNumber c = true := by
  simp only [isHexDigit, Bool.or_eq_true, Bool.and_eq_true, decide_eq_true_eq] at hc
  obtain (hc | hc) | hc := hc
  · exact ofNumber_isDigit c hc
  · have hletter : c.isLower = true := by
      have hle : c ≤ 'z' := hc.2.trans (by decide)
      simpa [Char.isLower] using ⟨hc.1, hle⟩
    simp [ofNumber, Char.isAlphanum, Char.isAlpha, hletter]
  · have hletter : c.isUpper = true := by
      have hle : c ≤ 'Z' := hc.2.trans (by decide)
      simpa [Char.isUpper] using ⟨hc.1, hle⟩
    simp [ofNumber, Char.isAlphanum, Char.isAlpha, hletter]

theorem ofNumber_isOctalDigit (c : Char) (hc : isOctalDigit c = true) : ofNumber c = true := by
  refine ofNumber_isDigit c ?_
  simp only [isOctalDigit, Bool.and_eq_true, decide_eq_true_eq] at hc
  have hle : c ≤ '9' := hc.2.trans (by decide)
  simpa [Char.isDigit] using ⟨hc.1, hle⟩

theorem ofNumber_isBinaryDigit (c : Char) (hc : (c == '0' || c == '1') = true) :
    ofNumber c = true := by
  simp only [Bool.or_eq_true, beq_iff_eq] at hc
  rcases hc with rfl | rfl <;> rfl

theorem fraction?_takes : Takes fraction? := by
  intro cs x left hcs
  unfold fraction? at hcs
  split at hcs
  · next cs =>
    split at hcs
    · obtain ⟨⟨ds, left'⟩, hds, heq⟩ := Option.map_eq_some_iff.mp hcs
      obtain ⟨rfl, rfl⟩ := Prod.mk.inj heq
      obtain ⟨taken, rfl, htaken⟩ := digits?_takes ofNumber_isDigit _ _ _ hds
      exact ⟨'.' :: taken, rfl, by rw [List.all_cons, htaken]; rfl⟩
    · obtain ⟨rfl, rfl⟩ := Prod.mk.inj (Option.some.inj hcs)
      exact ⟨['.'], rfl, rfl⟩
  · obtain ⟨rfl, rfl⟩ := Prod.mk.inj (Option.some.inj hcs)
    exact ⟨[], rfl, rfl⟩

theorem exponentSign_takes (cs : List Char) :
    ∃ taken, cs = taken ++ (exponentSign cs).2 ∧ taken.all ofNumber = true := by
  fun_cases exponentSign cs with
  | case1 ds => exact ⟨['+'], rfl, rfl⟩
  | case2 ds => exact ⟨['-'], rfl, rfl⟩
  | case3 cs => exact ⟨[], rfl, rfl⟩

theorem exponent?_takes : Takes exponent? := by
  intro cs x left hcs
  rcases cs with _ | ⟨e, cs⟩
  · obtain ⟨rfl, rfl⟩ := Prod.mk.inj (Option.some.inj hcs)
    exact ⟨[], rfl, rfl⟩
  rw [exponent?_cons] at hcs
  split at hcs
  · next he =>
    split at hcs
    · split at hcs
      · obtain ⟨rfl, rfl⟩ := Prod.mk.inj (Option.some.inj hcs)
        exact ⟨[], rfl, rfl⟩
      · contradiction
    · obtain ⟨⟨ds, left'⟩, hds, heq⟩ := Option.map_eq_some_iff.mp hcs
      obtain ⟨rfl, rfl⟩ := Prod.mk.inj heq
      obtain ⟨sign, hsign, hall⟩ := exponentSign_takes cs
      obtain ⟨taken, htail, htaken⟩ := digits?_takes ofNumber_isDigit _ _ _ hds
      have hletter : ofNumber e = true := by
        simp only [Bool.or_eq_true, decide_eq_true_eq] at he
        rcases he with rfl | rfl <;> rfl
      refine ⟨e :: (sign ++ taken), ?_, ?_⟩
      · rw [List.cons_append, List.append_assoc, ← htail, ← hsign]
      · rw [List.all_cons, List.all_append, hletter, hall, htaken]
        rfl
  · obtain ⟨rfl, rfl⟩ := Prod.mk.inj (Option.some.inj hcs)
    exact ⟨[], rfl, rfl⟩

theorem ended?_takes (whole : List Char) (point : Bool) (fraction : List Char) (e : Option Int) :
    Takes (ended? whole point fraction e) := by
  intro cs x left hcs
  by_cases hj : ∃ j ∈ ['j', 'J'], ∃ more, cs = j :: more
  · obtain ⟨j, hj, cs, rfl⟩ := hj
    rw [ended?_imaginary hj] at hcs
    split at hcs
    · obtain ⟨rfl, rfl⟩ := Prod.mk.inj (Option.some.inj hcs)
      exact ⟨[j], rfl, by rcases List.mem_pair.mp hj with rfl | rfl <;> rfl⟩
    · contradiction
  · rw [ended?_real fun j hm more hcs => hj ⟨j, hm, more, hcs⟩] at hcs
    split at hcs
    · obtain ⟨l, hl, heq⟩ := Option.map_eq_some_iff.mp hcs
      obtain ⟨rfl, rfl⟩ := Prod.mk.inj heq
      exact ⟨[], rfl, rfl⟩
    · contradiction

theorem decimalTail_takes (whole : List Char) : Takes (decimalTail whole) := by
  rw [funext (decimalTail_eq whole)]
  have hparts (x : Bool × List Char) := exponent?_takes.bind (ended?_takes whole x.1 x.2)
  exact fraction?_takes.bind hparts

theorem afterUnderscore_takes (cs : List Char) :
    ∃ taken, cs = taken ++ afterUnderscore cs ∧ taken.all ofNumber = true := by
  fun_cases afterUnderscore cs with
  | case1 cs => exact ⟨['_'], rfl, rfl⟩
  | case2 cs => exact ⟨[], rfl, rfl⟩

theorem basedInteger_takes (base : Nat) {isDigit : Char → Bool}
    (hd : ∀ c, isDigit c = true → ofNumber c = true) : Takes (basedInteger base isDigit) := by
  intro cs x left hcs
  rw [basedInteger_eq] at hcs
  obtain ⟨⟨ds, left'⟩, hds, hcs⟩ := Option.bind_eq_some_iff.mp hcs
  dsimp only at hcs
  split at hcs
  · obtain ⟨rfl, rfl⟩ := Prod.mk.inj (Option.some.inj hcs)
    obtain ⟨line, hline, hall⟩ := afterUnderscore_takes cs
    obtain ⟨taken, htail, htaken⟩ := digits?_takes hd _ _ _ hds
    refine ⟨line ++ taken, ?_, ?_⟩
    · rw [List.append_assoc, ← htail, ← hline]
    · rw [List.all_append, hall, htaken]
      rfl
  · contradiction

theorem Takes.cons {read : List Char → Option (α × List Char)} (h : Takes read) {c d : Char}
    {cs left : List Char} {x : α} (hc : ofNumber c = true) (hd : ofNumber d = true)
    (hcs : read cs = some (x, left)) :
    ∃ taken, c :: d :: cs = taken ++ left ∧ taken.all ofNumber = true := by
  obtain ⟨taken, rfl, htaken⟩ := h _ _ _ hcs
  exact ⟨c :: d :: taken, rfl, by simp only [List.all_cons, hc, hd, htaken, Bool.and_self]⟩

/-- **Numbers consist of letters, digits, underscores, points and signs.** -/
theorem number_takes : Takes number := by
  intro cs x left hcs
  fun_cases number cs with
  | case1 cs | case2 cs => exact (basedInteger_takes 16 ofNumber_isHexDigit).cons rfl rfl hcs
  | case3 cs | case4 cs => exact (basedInteger_takes 8 ofNumber_isOctalDigit).cons rfl rfl hcs
  | case5 cs | case6 cs => exact (basedInteger_takes 2 ofNumber_isBinaryDigit).cons rfl rfl hcs
  | case7 cs => exact decimalTail_takes [] ('.' :: cs) x left hcs
  | case8 cs h1 h2 h3 h4 h5 h6 hpoint =>
    rw [number_decimal (not_prefixed h1 h2 h3 h4 h5 h6) hpoint] at hcs
    exact (digits?_takes ofNumber_isDigit).bind decimalTail_takes _ _ _ hcs

/-! ### Numerals -/

theorem word?_of_number {cs : List Char} {l : Literal}
    (hdigit : (cs.head?.map Char.isDigit).getD false = true) (h : number cs = some (l, [])) :
    word? cs = some (some (.literal l, [])) := by
  cases cs with
  | nil => contradiction
  | cons c cs =>
    have hc : c.isDigit = true := hdigit
    rw [word?, if_pos (by simp [hc]), h]
    rfl

/-- A text that is a number in expressions. -/
structure Numeral where
  text : List Char
  value : Literal
  spelled : word? text = some (some (.literal value, []))

namespace Numeral

/-- The text begins like a number, and all of it is one. -/
theorem number_text (n : Numeral) : ∃ c cs, n.text = c :: cs ∧
    (c.isDigit || (c = '.' && (cs.head?.map Char.isDigit).getD false)) = true ∧
    number n.text = some (n.value, []) := by
  have h := n.spelled
  unfold word? at h
  split at h
  · simp at h
  · next c cs heq =>
    split at h
    · next hc =>
      obtain ⟨⟨l, left⟩, hnumber, heq'⟩ := Option.map_eq_some_iff.mp h
      obtain ⟨hl, rfl⟩ := Prod.mk.inj (Option.some.inj heq')
      obtain rfl := Lexeme.literal.inj hl
      exact ⟨c, cs, heq, hc, heq ▸ hnumber⟩
    -- a quoted text or a name is not a literal
    · split at h
      · simp [Option.bind_eq_some_iff] at h
      · dsimp only at h
        split at h
        · split at h <;> simp at h
        · simp at h

theorem ne_nil (n : Numeral) : n.text ≠ [] := by
  obtain ⟨c, cs, htext, -⟩ := n.number_text
  rw [htext]
  exact List.cons_ne_nil c cs

theorem ofNumber_of_mem (n : Numeral) {c : Char} (hc : c ∈ n.text) : ofNumber c = true := by
  obtain ⟨-, -, -, -, hnumber⟩ := n.number_text
  obtain ⟨taken, htext, htaken⟩ := number_takes _ _ _ hnumber
  rw [htext, List.append_nil] at hc
  exact List.all_eq_true.mp htaken c hc

/-- What follows does not change a numeral. -/
theorem word?_append (n : Numeral) (h : Delimits rest) :
    word? (n.text ++ rest) = some (some (.literal n.value, rest)) := by
  obtain ⟨c, cs, htext, hc, hnumber⟩ := n.number_text
  have happend := number_append h _ _ _ hnumber
  rw [List.nil_append] at happend
  rw [htext] at happend ⊢
  rw [List.cons_append] at happend ⊢
  rw [word?, head_append h isDigit_delimiter, if_pos hc, happend]
  rfl

end Numeral

end CaseDict.Calc
