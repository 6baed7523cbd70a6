import CaseDict.Proofs.Calc.Numerals
import CaseDict.Proofs.Number.Negation
import CaseDict.Proofs.Number.Text
/-! # Numbers as operands

The text of a finite number is its sign and a numeral for its magnitude (`Number.text_eq`): digits
that are read as an integer, or a decimal that is read as the double without its sign. -/

namespace CaseDict.Calc

open Text (valueIn)

variable {rest : List Char}

/-! ### Digits -/

open Number (IsDigits)

theorem digits?_digits {ds : List Char} (hds : IsDigits ds) (hne : ds ≠ [])
    (hrest : (rest.head?.map Char.isDigit).getD false = false) (hline : ∀ more, rest ≠ '_' :: more) :
    digits? Char.isDigit (ds ++ rest) = some (ds, rest) := by
  induction ds with
  | nil => contradiction
  | cons c ds ih =>
    have hc : c.isDigit = true := hds c (by simp)
    cases ds with
    | nil =>
      cases rest with
      | nil => simp [digits?, hc]
      | cons d more =>
        have hd : d ≠ '_' := fun h => hline more (by rw [h])
        have hdigit : d.isDigit = false := hrest
        rw [List.singleton_append, digits?.eq_2 _ _ _ _ hd, if_neg (by simp [hc]),
          if_neg (by simp [hdigit])]
    | cons d ds =>
      have hdigit : d.isDigit = true := hds d (by simp)
      have hd : d ≠ '_' := by
        rintro rfl
        contradiction
      have htail := ih hds.tail (List.cons_ne_nil d ds)
      rw [List.cons_append] at htail
      rw [List.cons_append, List.cons_append, digits?.eq_2 _ _ _ _ hd, if_neg (by simp [hc]),
        if_pos hdigit, htail]
      rfl

theorem digits?_all {ds : List Char} (hds : IsDigits ds) (hne : ds ≠ []) :
    digits? Char.isDigit ds = some (ds, []) := by
  have hread : digits? Char.isDigit (ds ++ []) = some (ds, []) :=
    digits?_digits hds hne rfl (by simp)
  rwa [List.append_nil] at hread

theorem valueIn_eq {ds : List Char} (hds : IsDigits ds) : valueIn 10 ds = Number.digitsValue 0 ds := by
  unfold valueIn Number.digitsValue
  refine List.foldl_ext _ _ _ fun n c hc => ?_
  rw [Number.digitValue?_eq (hds c hc), Text.hexDigitValue, if_pos (hds c hc)]
  rfl

theorem not_prefixed_digits {ds : List Char} (hds : IsDigits ds) : ¬Prefixed ds := by
  rintro ⟨b, hb, more, rfl⟩
  have hdigit : b.isDigit = true := hds b (by simp)
  simp only [List.mem_cons, List.not_mem_nil, or_false] at hb
  rcases hb with rfl | rfl | rfl | rfl | rfl | rfl <;> contradiction

/-- Only zero is written with a zero first. -/
theorem head_toDigits {n : Nat} (hn : n ≠ 0) : (Nat.toDigits 10 n).head? ≠ some '0' := by
  intro hhead
  obtain ⟨ds, hds⟩ := List.head?_eq_some_iff.mp hhead
  have hvalue := Number.digitsValue_toDigits n
  rw [hds] at hvalue
  have hlt : n < 10 ^ ds.length := by
    have h := Number.digitsValue_lt ds 0
    rw [Nat.zero_add, Nat.one_mul] at h
    calc n = Number.digitsValue 0 ('0' :: ds) := hvalue.symm
      _ = Number.digitsValue 0 ds := rfl
      _ < 10 ^ ds.length := h
  cases ds with
  | nil =>
    rw [List.length_nil] at hlt
    omega
  | cons d ds =>
    have hlength := (Nat.length_toDigits_le_iff (b := 10) (by norm_num) (by simp)).mpr hlt
    rw [hds] at hlength
    simp at hlength

/-- A whole part alone is an integer. -/
theorem decimalTail_nil {whole : List Char} {l : Literal} (h : real? whole false [] none = some l) :
    decimalTail whole [] = some (l, []) := by
  have hended : ended? whole false [] none [] = some (l, []) := by
    rw [ended?_real (by simp), h]
    rfl
  exact (decimalTail_eq whole []).trans hended

/-- A natural number that is not too long is read as it is written. -/
theorem number_toDigits {n : Nat} (h : Number.digitCount n ≤ Number.digitLimit) :
    number (Nat.toDigits 10 n) = some (.int n, []) := by
  have hds := IsDigits.toDigits n
  have hpoint (more : List Char) : Nat.toDigits 10 n ≠ '.' :: more := by
    intro heq
    have hdigit := hds '.' (by rw [heq]; simp)
    contradiction
  have hread := digits?_all hds Nat.toDigits_ne_nil
  have hreal : real? (Nat.toDigits 10 n) false [] none = some (.int n) := by
    unfold real?
    rw [if_neg (by simp)]
    by_cases hn : n = 0
    · subst hn
      rfl
    · have hhead := head_toDigits hn
      obtain ⟨c, ds, hcons⟩ := List.exists_cons_of_ne_nil (Nat.toDigits_ne_nil (b := 10) (n := n))
      have hzeros : ¬(Nat.toDigits 10 n).all (· == '0') = true := by
        rw [hcons] at hhead ⊢
        simp only [List.head?_cons, ne_eq, Option.some.injEq] at hhead
        simp [hhead]
      have hlimit : ((Nat.toDigits 10 n).length ≤ Number.digitLimit &&
          (Nat.toDigits 10 n).head? != some '0') = true := by
        rw [Bool.and_eq_true]
        exact ⟨decide_eq_true h, by simpa using hhead⟩
      rw [if_neg hzeros, if_pos hlimit, valueIn_eq hds, Number.digitsValue_toDigits]
  rw [number_decimal (not_prefixed_digits hds) hpoint, hread, Option.bind_some]
  exact decimalTail_nil hreal

/-! ### Doubles -/

open Number (IsNumeral isNumeral)

theorem isDigit_of_isNumeral {c : Char} (hc : isNumeral c = true) : Text.isDigit c = c.isDigit := by
  by_cases hd : c.isDigit = true
  · rw [hd, Number.isDigit_eq hd]
  · have hmem : c ∈ ['+', '-', '.', 'e'] := by simpa [isNumeral, hd] using hc
    simp only [List.mem_cons, List.not_mem_nil, or_false] at hmem
    rcases hmem with rfl | rfl | rfl | rfl <;> decide

theorem not_prefixed_numeral {cs : List Char} (hcs : IsNumeral cs) : ¬Prefixed cs := by
  rintro ⟨b, hb, more, rfl⟩
  have hnumeral : isNumeral b = true := hcs b (by simp)
  simp only [List.mem_cons, List.not_mem_nil, or_false] at hb
  rcases hb with rfl | rfl | rfl | rfl | rfl | rfl <;> contradiction

/-- The digits at the front of a numeral. -/
theorem exists_digits {cs : List Char} (hcs : IsNumeral cs) : ∃ ds left, cs = ds ++ left ∧
    IsDigits ds ∧ IsNumeral left ∧ (left.head?.map Char.isDigit).getD false = false ∧
    cs.takeWhile Text.isDigit = ds ∧ cs.dropWhile Text.isDigit = left := by
  refine ⟨_, _, (List.takeWhile_append_dropWhile (p := Text.isDigit)).symm, ?_, ?_, ?_, rfl, rfl⟩
  · intro c hc
    rw [← isDigit_of_isNumeral (hcs c ((List.takeWhile_prefix _).subset hc))]
    exact List.mem_takeWhile_imp hc
  · exact fun c hc => hcs c ((List.dropWhile_suffix _).subset hc)
  · have hhead := List.head?_dropWhile_not Text.isDigit cs
    cases hc : (cs.dropWhile Text.isDigit).head? with
    | none => rfl
    | some c =>
      rw [hc] at hhead
      have hmem : c ∈ cs := (List.dropWhile_suffix _).subset (List.mem_of_head? hc)
      exact (isDigit_of_isNumeral (hcs c hmem)).symm.trans hhead

theorem IsNumeral.digits?_eq {ds left : List Char} (hleft : IsNumeral left) (hds : IsDigits ds)
    (hne : ds ≠ []) (hhead : (left.head?.map Char.isDigit).getD false = false) :
    digits? Char.isDigit (ds ++ left) = some (ds, left) := by
  refine digits?_digits hds hne hhead ?_
  rintro more rfl
  exact absurd (hleft '_' (by simp)) (by decide)

theorem splitSign_exponent (cs : List Char) :
    Number.splitSign cs = ((exponentSign cs).1 == some true, (exponentSign cs).2) := by
  fun_cases exponentSign cs with
  | case1 ds | case2 ds => rfl
  | case3 cs hplus hminus =>
    unfold Number.splitSign
    split
    · next ds => exact absurd rfl (hminus ds)
    · next ds => exact absurd rfl (hplus ds)
    · rfl

theorem exponentSign_suffix (cs : List Char) : (exponentSign cs).2 <:+ cs := by
  fun_cases exponentSign cs with
  | case1 ds | case2 ds => exact List.suffix_cons ..
  | case3 => exact List.suffix_rfl

/-- The exponent of a word is that of a number in an expression. -/
theorem exponent?_of_readExponent? {cs : List Char} {e : Int} (hcs : IsNumeral cs)
    (h : Number.readExponent? cs = some e) :
    exponent? cs = some (if cs.isEmpty then none else some e, []) := by
  unfold Number.readExponent? at h
  split at h
  · rfl
  · next cs =>
    rw [splitSign_exponent] at h
    dsimp only at h
    rw [exponent?_cons, if_pos (by decide)]
    have hnumeral : IsNumeral (exponentSign cs).2 := fun c hc =>
      hcs.tail c ((exponentSign_suffix cs).subset hc)
    generalize (exponentSign cs).2 = ds at h hnumeral
    split at h
    · next hdigits =>
      obtain ⟨hne, hall⟩ : ds ≠ [] ∧ ds.all Text.isDigit = true := by simpa using hdigits
      have hds : IsDigits ds := fun c hc =>
        (isDigit_of_isNumeral (hnumeral c hc)).symm.trans (List.all_eq_true.mp hall c hc)
      have hread := digits?_all hds hne
      have hhead : (ds.head?.map Char.isDigit).getD false = true := by
        obtain ⟨c, ds, rfl⟩ := List.exists_cons_of_ne_nil hne
        exact hds c (by simp)
      rw [if_neg (by simp [hhead]), hread, Option.map_some]
      dsimp only
      rw [valueIn_eq hds, Option.some.inj h]
      rfl
    · contradiction
  · exact absurd (hcs 'E' (by simp)) (by decide)
  · contradiction

/-- With a point or an exponent a number is a double. -/
theorem ended?_float {whole fraction : List Char} {point : Bool} {e : Option Int}
    (h : (point || e.isSome) = true) : ended? whole point fraction e [] =
      some (.float (floatOf whole fraction (e.getD 0)), []) := by
  rw [ended?_real (by simp), if_pos (by rfl), real?, if_pos h]
  rfl

theorem floatOf_eq {whole fraction : List Char} (hw : IsDigits whole) (hf : IsDigits fraction)
    (e : Int) : floatOf whole fraction e =
      (⟨Number.digitsValue (Number.digitsValue 0 whole) fraction, e - fraction.length⟩ :
        Number.Decimal).toFloat false := by
  rw [floatOf, valueIn_eq (hw.append hf), Number.digitsValue_append]

theorem IsNumeral.fraction?_eq {fs tail : List Char} (htail : IsNumeral tail) (hfs : IsDigits fs)
    (hhead : (tail.head?.map Char.isDigit).getD false = false) :
    fraction? ('.' :: (fs ++ tail)) = some ((true, fs), tail) := by
  rw [fraction?]
  cases fs with
  | nil => rw [List.nil_append, if_neg (by simp [hhead])]
  | cons c fs =>
    have hdigit : ((c :: fs ++ tail).head?.map Char.isDigit).getD false = true := hfs c (by simp)
    rw [if_pos hdigit, IsNumeral.digits?_eq htail hfs (List.cons_ne_nil c fs) hhead]
    rfl

/-- A word that is a double goes on behind its first digits with a fraction, with an exponent, or
with both. -/
theorem exists_fraction {ds left : List Char} {x : Float} (hds : IsDigits ds) (hne : ds ≠ [])
    (hleft : IsNumeral left) (htake : (ds ++ left).takeWhile Text.isDigit = ds)
    (hdrop : (ds ++ left).dropWhile Text.isDigit = left)
    (h : Number.read (ds ++ left) = .number (.float x)) : ∃ point fs tail e,
      fraction? left = some ((point, fs), tail) ∧ IsNumeral tail ∧ (point || !tail.isEmpty) = true ∧
        Number.readExponent? tail = some e ∧ x = floatOf ds fs e := by
  have hsign : Number.splitSign (ds ++ left) = (false, ds ++ left) :=
    Number.splitSign_sign hds hne false left
  simp only [Number.read, hsign, htake, hdrop] at h
  split at h
  · split at h <;> simp at h
  next hempty =>
  by_cases hp : ∃ more, left = '.' :: more
  · obtain ⟨more, rfl⟩ := hp
    obtain ⟨fs, tail, rfl, hfs, htail, hhead, htake', hdrop'⟩ := exists_digits hleft.tail
    simp only [htake', hdrop'] at h
    split at h
    · contradiction
    split at h
    · contradiction
    next e he =>
    obtain rfl := Number.float.inj (Number.Reading.number.inj h)
    exact ⟨true, fs, tail, e, IsNumeral.fraction?_eq htail hfs hhead, htail, rfl, he,
      (floatOf_eq hds hfs e).symm⟩
  · have hpoint (more : List Char) : left ≠ '.' :: more := fun heq => hp ⟨more, heq⟩
    simp only at h
    split at h
    · contradiction
    split at h
    · contradiction
    next e he =>
    obtain rfl := Number.float.inj (Number.Reading.number.inj h)
    exact ⟨false, [], left, e, fraction?_of_ne hpoint, hleft, by simpa [hne] using hempty, he,
      (floatOf_eq hds (by simp [IsDigits]) e).symm⟩

/-- A double that is read as the value of a word is read as a number of an expression. -/
theorem number_of_read {cs : List Char} {x : Float} (hcs : IsNumeral cs)
    (hdigit : (cs.head?.map Char.isDigit).getD false = true)
    (h : Number.read cs = .number (.float x)) : number cs = some (.float x, []) := by
  have hpoint (more : List Char) : cs ≠ '.' :: more := by
    rintro rfl
    contradiction
  rw [number_decimal (not_prefixed_numeral hcs) hpoint]
  obtain ⟨ds, left, rfl, hds, hleft, hhead, htake, hdrop⟩ := exists_digits hcs
  have hne : ds ≠ [] := by
    rintro rfl
    rw [List.nil_append, hhead] at hdigit
    contradiction
  obtain ⟨point, fs, tail, e, hfraction, htail, hform, he, rfl⟩ :=
    exists_fraction hds hne hleft htake hdrop h
  rw [IsNumeral.digits?_eq hleft hds hne hhead, Option.bind_some, decimalTail_eq, hfraction,
    Option.bind_some, exponent?_of_readExponent? htail he, Option.bind_some]
  cases tail with
  | nil =>
    obtain rfl := Option.some.inj he
    exact ended?_float hform
  | cons c tail => exact ended?_float (Bool.or_true point)

end CaseDict.Calc

namespace CaseDict.Number

open Calc (Numeral Literal)

/-- A finite number that is not too long to be written. -/
structure IsPlain (n : Number) : Prop where
  writable : n.writable = true
  finite : ∀ x, n = .float x → x.isFinite = true

/-- The number has a minus sign. -/
def isNegative : Number → Bool
  | .int n => n < 0
  | .float x => Calc.signBit x

/-- The number without its sign. -/
def magnitude (n : Number) : Number := if n.isNegative then n.negate else n

/-- A number without sign as a literal. -/
def literal : Number → Literal
  | .int n => .int n.natAbs
  | .float x => .float x

theorem negate_magnitude {n : Number} (h : n.IsPlain) (hn : n.isNegative = true) :
    n.magnitude.negate = n := by
  rw [magnitude, if_pos hn]
  cases n with
  | int n => rw [negate, negate, Int.neg_neg]
  | float x =>
    obtain ⟨d, hd⟩ := exists_dyadic (h.finite x rfl)
    obtain ⟨c, hc, -⟩ := text_float hd
    rw [negate, negate, ← hc, neg_neg_toFloat]

/-- A decimal begins with a digit. -/
theorem head_magnitude (f : Layout) (d : Decimal) :
    ((f.magnitude d).toList.head?.map Char.isDigit).getD false = true := by
  unfold Layout.magnitude
  dsimp only
  split
  · split <;> decide
  next hd =>
  obtain ⟨c, ds, hds, hc⟩ : ∃ c ds, trimZeros (Nat.toDigits 10 d.digits) = c :: ds ∧
      c.isDigit = true := by
    obtain ⟨-, -, hne, hdigits⟩ := trimZeros_spec (.toDigits d.digits) (by rwa [digitsValue_toDigits])
    obtain ⟨c, ds, hds⟩ := List.exists_cons_of_ne_nil hne
    exact ⟨c, ds, hds, hdigits c (by rw [hds]; simp)⟩
  rw [hds]
  split
  · cases ds <;> simpa using hc
  split
  · simp
  · split
    · simpa using hc
    · simpa using hc

/-- **A finite number is written as its sign and a numeral.** -/
theorem exists_numeral {n : Number} (h : n.IsPlain) : ∃ m : Numeral,
    n.text.toList = sign n.isNegative ++ m.text ∧ m.value = n.magnitude.literal := by
  cases n with
  | int n =>
    have hnumber := Calc.number_toDigits (of_decide_eq_true h.writable)
    refine ⟨⟨Nat.toDigits 10 n.natAbs, .int n.natAbs, Calc.word?_of_number ?_ hnumber⟩, text_int n, ?_⟩
    · obtain ⟨c, ds, hds⟩ := List.exists_cons_of_ne_nil (Nat.toDigits_ne_nil (b := 10) (n := n.natAbs))
      rw [hds]
      exact IsDigits.toDigits n.natAbs c (by rw [hds]; simp)
    · unfold magnitude
      split <;> simp [negate, literal]
  | float x =>
    obtain ⟨d, hd⟩ := exists_dyadic (h.finite x rfl)
    obtain ⟨c, hc, htext⟩ := text_float hd
    have hread := read_decimal c false
    have hnumber := Calc.number_of_read (isNumeral_magnitude layout c) (head_magnitude layout c) hread
    refine ⟨⟨(layout.magnitude c).toList, .float (c.toFloat false),
      Calc.word?_of_number (head_magnitude layout c) hnumber⟩, ?_, ?_⟩
    · rw [htext, negative_eq_signBit hd]
      rfl
    · have hmagnitude : (float x).magnitude = .float (c.toFloat false) := by
        rw [magnitude, isNegative, ← negative_eq_signBit hd]
        split
        · next hneg =>
          rw [hneg] at hc
          rw [negate, ← hc, neg_toFloat]
          rfl
        · next hneg =>
          rw [Bool.not_eq_true] at hneg
          rw [← hc, hneg]
      rw [hmagnitude, literal]

end CaseDict.Number
