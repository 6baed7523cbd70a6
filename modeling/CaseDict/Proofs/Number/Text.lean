import CaseDict.Number
import CaseDict.Proofs.Number.Decimal
import Mathlib.Data.List.TakeWhile
/-! # Numbers read back

What is written of a number is read as the number: an integer by its digits, and a double by a
decimal of the same value as its shortest one, wherever the layout has put the point and the
exponent. -/

namespace CaseDict.Number

/-! ### Digits -/

/-- Decimal digits as numbers are written with. -/
def IsDigits (cs : List Char) : Prop := ∀ c ∈ cs, c.isDigit = true

theorem digitValue?_eq {c : Char} (hc : c.isDigit = true) :
    Text.digitValue? c = some (c.toNat - '0'.toNat) := by
  have h : c.val < 128 := by
    simp only [Char.isDigit, Bool.and_eq_true, decide_eq_true_eq] at hc
    exact Nat.lt_of_le_of_lt hc.2 (by decide)
  rw [Text.digitValue?, if_pos h, if_pos hc]
  rfl

theorem isDigit_eq {c : Char} (hc : c.isDigit = true) : Text.isDigit c = true := by
  rw [Text.isDigit, digitValue?_eq hc]
  rfl

theorem IsDigits.all {cs : List Char} (h : IsDigits cs) : cs.all Text.isDigit = true :=
  List.all_eq_true.mpr fun c hc => isDigit_eq (h c hc)

theorem IsDigits.append {cs cs' : List Char} (h : IsDigits cs) (h' : IsDigits cs') :
    IsDigits (cs ++ cs') := List.forall_mem_append.mpr ⟨h, h'⟩

theorem IsDigits.zeros (n : Nat) : IsDigits (List.replicate n '0') := by
  intro c hc
  rw [List.eq_of_mem_replicate hc]
  rfl

theorem IsDigits.toDigits (n : Nat) : IsDigits (Nat.toDigits 10 n) :=
  fun _ hc => Nat.isDigit_of_mem_toDigits (by norm_num) le_rfl hc

theorem digitsValue_eq {cs : List Char} (h : IsDigits cs) (n : Nat) :
    digitsValue n cs = Nat.ofDigitChars 10 cs n := by
  induction cs generalizing n with
  | nil => rfl
  | cons c cs ih =>
    rw [Nat.ofDigitChars_cons, ← ih fun x hx => h x (List.mem_cons_of_mem _ hx)]
    simp only [digitsValue, List.foldl_cons, digitValue?_eq (h c (by simp)), Option.getD_some]
    rw [Nat.mul_comm n]

theorem digitsValue_append (cs cs' : List Char) (n : Nat) :
    digitsValue n (cs ++ cs') = digitsValue (digitsValue n cs) cs' := List.foldl_append ..

theorem digitsValue_toDigits (n : Nat) : digitsValue 0 (Nat.toDigits 10 n) = n := by
  rw [digitsValue_eq (.toDigits n), Nat.ofDigitChars_ten_toDigits]

theorem digitsValue_zeros (n k : Nat) :
    digitsValue n (List.replicate k '0') = n * 10 ^ k := by
  rw [digitsValue_eq (.zeros k), Nat.ofDigitChars_replicate_zero, Nat.mul_comm]

theorem takeWhile_digits {cs rest : List Char} (h : IsDigits cs)
    (hr : ∀ c, rest.head? = some c → Text.isDigit c = false) :
    (cs ++ rest).takeWhile Text.isDigit = cs := by
  rw [List.takeWhile_append_of_pos fun c hc => isDigit_eq (h c hc)]
  cases rest with
  | nil => simp
  | cons c rest => simp [hr c rfl]

theorem dropWhile_digits {cs rest : List Char} (h : IsDigits cs)
    (hr : ∀ c, rest.head? = some c → Text.isDigit c = false) :
    (cs ++ rest).dropWhile Text.isDigit = rest := by
  rw [List.dropWhile_append_of_pos fun c hc => isDigit_eq (h c hc)]
  cases rest with
  | nil => simp
  | cons c rest => simp [hr c rfl]

/-! ### Signs -/

/-- A minus for negative numbers. -/
def sign (negative : Bool) : List Char := if negative then ['-'] else []

theorem splitSign_sign {cs : List Char} (hd : IsDigits cs) (hne : cs ≠ []) (negative : Bool)
    (rest : List Char) : splitSign (sign negative ++ cs ++ rest) = (negative, cs ++ rest) := by
  cases negative with
  | true => rfl
  | false =>
    cases cs with
    | nil => contradiction
    | cons c cs =>
      have hc : c.isDigit = true := hd c (by simp)
      simp only [sign, Bool.false_eq_true, if_false, List.nil_append, List.cons_append]
      unfold splitSign
      split
      · next h =>
        rw [(List.cons.inj h).1] at hc
        contradiction
      · next h =>
        rw [(List.cons.inj h).1] at hc
        contradiction
      · rfl

/-! ### Integers -/

theorem read_digits {cs : List Char} (hd : IsDigits cs) (hne : cs ≠ [])
    (hl : cs.length ≤ digitLimit) (negative : Bool) :
    read (sign negative ++ cs) =
      .number (.int (if negative then -(digitsValue 0 cs : Int) else digitsValue 0 cs)) := by
  have hs := splitSign_sign hd hne negative []
  have ht := @takeWhile_digits cs [] hd (by simp)
  have hr := @dropWhile_digits cs [] hd (by simp)
  simp only [List.append_nil] at hs ht hr
  simp only [read, hs, ht, hr]
  rw [if_pos (by simpa using hne), if_neg (by omega)]

theorem text_int (n : Int) :
    (text (.int n)).toList = sign (n < 0) ++ Nat.toDigits 10 n.natAbs := by
  rw [text, Int.toString_eq_repr, Int.repr_eq_if]
  split
  · next h =>
    rw [show n.natAbs = n.toNat by omega]
    simp [sign, Int.not_lt.mpr h]
  · next h =>
    rw [show n.natAbs = (-n).toNat by omega]
    simp [sign, Int.not_le.mp h]

theorem read_int {n : Int} (h : writable (.int n) = true) :
    read (text (.int n)).toList = .number (.int n) := by
  have hl : (Nat.toDigits 10 n.natAbs).length ≤ digitLimit := of_decide_eq_true h
  rw [text_int, read_digits (.toDigits _) Nat.toDigits_ne_nil hl, digitsValue_toDigits]
  congr 2
  split
  · next h => simp at h; omega
  · next h => simp at h; omega

/-! ### Doubles -/

theorem read_point {whole fraction tail : List Char} (hw : IsDigits whole) (hne : whole ≠ [])
    (hf : IsDigits fraction) {e : Int} (ht : readExponent? tail = some e)
    (hh : ∀ c, tail.head? = some c → Text.isDigit c = false) (negative : Bool) :
    read (sign negative ++ whole ++ '.' :: (fraction ++ tail)) = .number (.float
      ((⟨digitsValue 0 (whole ++ fraction), e - fraction.length⟩ : Decimal).toFloat negative)) := by
  have hp : ∀ c, ('.' :: (fraction ++ tail)).head? = some c → Text.isDigit c = false := by
    intro c hc
    rw [← Option.some.inj hc]
    decide
  simp only [read, splitSign_sign hw hne, takeWhile_digits hw hp, dropWhile_digits hw hp,
    takeWhile_digits hf hh, dropWhile_digits hf hh, ht, digitsValue_append]
  rw [if_neg (by simp), if_neg (by simp [hne])]

theorem read_noPoint {whole tail : List Char} (hw : IsDigits whole) (hne : whole ≠ [])
    {e : Int} (ht : readExponent? ('e' :: tail) = some e) (negative : Bool) :
    read (sign negative ++ whole ++ 'e' :: tail) = .number (.float
      ((⟨digitsValue 0 whole, e⟩ : Decimal).toFloat negative)) := by
  have hp : ∀ c, ('e' :: tail).head? = some c → Text.isDigit c = false := by
    intro c hc
    rw [← Option.some.inj hc]
    decide
  simp only [read, splitSign_sign hw hne, takeWhile_digits hw hp, dropWhile_digits hw hp]
  rw [if_neg (by simp)]
  simp [hne, ht]
  rfl

/-! ### Digits set out -/

/-- Without the zeros at their end the digits are worth as much, further left. -/
theorem trimZeros_spec {digits : List Char} (hd : IsDigits digits) (hv : digitsValue 0 digits ≠ 0) :
    ∃ k, digits = trimZeros digits ++ List.replicate k '0' ∧ trimZeros digits ≠ [] ∧
      IsDigits (trimZeros digits) := by
  have hz : digits.reverse.takeWhile (· == '0') =
      List.replicate (digits.reverse.takeWhile (· == '0')).length '0' :=
    List.eq_replicate_of_mem fun c hc => by simpa using List.mem_takeWhile_imp hc
  generalize (digits.reverse.takeWhile (· == '0')).length = k at hz
  have hk : digits = (digits.reverse.dropWhile (· == '0')).reverse ++ List.replicate k '0' := by
    have h := congrArg List.reverse (@List.takeWhile_append_dropWhile _ (· == '0') digits.reverse)
    rw [hz, List.reverse_append, List.reverse_reverse, List.reverse_replicate] at h
    exact h.symm
  have hne : (digits.reverse.dropWhile (· == '0')).reverse ≠ [] := by
    intro h
    rw [h, List.nil_append] at hk
    rw [hk, digitsValue_zeros, Nat.zero_mul] at hv
    exact hv rfl
  have ht : trimZeros digits = (digits.reverse.dropWhile (· == '0')).reverse := by
    unfold trimZeros
    exact if_neg (by simpa using hne)
  rw [ht]
  refine ⟨k, hk, hne, fun c hc => hd c ?_⟩
  rw [hk]
  exact List.mem_append_left _ hc

theorem readExponent?_exponentText (width : Nat) (e : Int) :
    readExponent? ('e' :: (exponentText width e).toList) = some e := by
  obtain ⟨ds, htext, hdig, hne, hval⟩ : ∃ ds, (exponentText width e).toList =
      (if e < 0 then '-' else '+') :: ds ∧ IsDigits ds ∧ ds ≠ [] ∧
        digitsValue 0 ds = e.natAbs := by
    refine ⟨List.replicate (width - (toString e.natAbs).length) '0' ++ Nat.toDigits 10 e.natAbs,
      ?_, (IsDigits.zeros _).append (.toDigits _), by simp, ?_⟩
    · unfold exponentText
      split <;> simp
    · rw [digitsValue_append, digitsValue_zeros, Nat.zero_mul, digitsValue_toDigits]
  have hsign : splitSign (exponentText width e).toList = (decide (e < 0), ds) := by
    rw [htext]
    split
    · next h => simp [splitSign, h]
    · next h => simp [splitSign, h]
  simp only [readExponent?, hsign, hval]
  rw [if_pos (by simp [hdig.all, hne])]
  congr 1
  split
  · next h => simp at h; omega
  · next h => simp at h; omega

variable {f : Layout} {d : Decimal}

theorem digitsValue_zeros_append (n : Nat) (cs : List Char) :
    digitsValue 0 (List.replicate n '0' ++ cs) = digitsValue 0 cs := by
  rw [digitsValue_append, digitsValue_zeros, Nat.zero_mul]

theorem IsDigits.tail {c : Char} {cs : List Char} (h : IsDigits (c :: cs)) : IsDigits cs :=
  fun x hx => h x (List.mem_cons_of_mem _ hx)

/-- One digit before the point, and an exponent. -/
theorem read_exponential {ts : List Char} (leading : Int) (width : Nat) (negative : Bool) :
    IsDigits ts → ts ≠ [] → ∃ c : Decimal,
      c.value = (⟨digitsValue 0 ts, leading + 1 - ts.length⟩ : Decimal).value ∧
      read (sign negative ++ ((match ts with
        | first :: second :: more => String.ofList (first :: '.' :: second :: more)
        | _ => String.ofList ts) ++ "e" ++ exponentText width leading).toList) =
          .number (.float (c.toFloat negative)) := by
  intro hd hne
  have hexp := readExponent?_exponentText width leading
  rcases ts with _ | ⟨a, _ | ⟨b, more⟩⟩
  · contradiction
  · have hr := read_noPoint hd hne hexp negative
    refine ⟨⟨digitsValue 0 [a], leading⟩, by simp, ?_⟩
    simpa using hr
  · have ha : IsDigits [a] := fun c hc => hd c (List.mem_cons.mpr (.inl (by simpa using hc)))
    have hr := read_point ha (by simp) hd.tail hexp (by simp; decide) negative
    refine ⟨⟨digitsValue 0 (a :: b :: more), leading - (b :: more).length⟩, ?_, ?_⟩
    · congr 2
      simp only [List.length_cons]
      omega
    · simpa using hr

/-- A zero before the point. -/
theorem read_small {ts : List Char} (hd : IsDigits ts) {leading : Int} (hl : leading < 0)
    (negative : Bool) : ∃ c : Decimal,
      c.value = (⟨digitsValue 0 ts, leading + 1 - ts.length⟩ : Decimal).value ∧
      read (sign negative ++
        ("0." ++ String.ofList (List.replicate (-leading - 1).toNat '0' ++ ts)).toList) =
          .number (.float (c.toFloat negative)) := by
  have hr := @read_point _ _ [] (.zeros 1) (by simp)
    ((IsDigits.zeros (-leading - 1).toNat).append hd) 0 rfl (by simp) negative
  rw [digitsValue_zeros_append, digitsValue_zeros_append] at hr
  refine ⟨⟨digitsValue 0 ts, 0 - (List.replicate (-leading - 1).toNat '0' ++ ts).length⟩, ?_, ?_⟩
  · congr 2
    simp
    omega
  · simpa using hr

/-- All digits before the point, or as many as belong there. -/
theorem read_positional {ts : List Char} (hd : IsDigits ts) (hne : ts ≠ []) {leading : Int}
    {whole : Nat} (hl : leading + 1 = whole) (hw : 0 < whole) (negative : Bool) : ∃ c : Decimal,
      c.value = (⟨digitsValue 0 ts, leading + 1 - ts.length⟩ : Decimal).value ∧
      read (sign negative ++
        (match (ts ++ List.replicate (whole - ts.length) '0').drop whole with
          | [] => String.ofList (ts ++ List.replicate (whole - ts.length) '0') ++ ".0"
          | fraction => String.ofList ((ts ++ List.replicate (whole - ts.length) '0').take whole) ++
              "." ++ String.ofList fraction).toList) =
          .number (.float (c.toFloat negative)) := by
  rcases Nat.lt_or_ge whole ts.length with h | h
  · have hz : ts ++ List.replicate (whole - ts.length) '0' = ts := by
      rw [Nat.sub_eq_zero_of_le h.le, List.replicate_zero, List.append_nil]
    have htake : IsDigits (ts.take whole) := fun c hc => hd c (List.mem_of_mem_take hc)
    have hdrop : IsDigits (ts.drop whole) := fun c hc => hd c (List.mem_of_mem_drop hc)
    have hr := @read_point _ _ [] htake (by simp [hne, hw.ne']) hdrop 0 rfl (by simp) negative
    rw [List.take_append_drop] at hr
    refine ⟨⟨digitsValue 0 ts, 0 - (ts.drop whole).length⟩, ?_, ?_⟩
    · congr 2
      rw [List.length_drop]
      omega
    · rw [hz]
      split
      · next hnil => exact absurd (List.drop_eq_nil_iff.mp hnil) (by omega)
      · simpa using hr
  · obtain ⟨k, rfl⟩ := Nat.exists_eq_add_of_le h
    have hz : (ts ++ List.replicate (ts.length + k - ts.length) '0').drop (ts.length + k) = [] := by
      simp
    have hr := @read_point _ _ [] (hd.append (.zeros k)) (by simp [hne]) (.zeros 1) 0 rfl (by simp)
      negative
    rw [digitsValue_append, digitsValue_append, digitsValue_zeros, digitsValue_zeros] at hr
    refine ⟨⟨digitsValue 0 ts * 10 ^ k * 10 ^ 1, 0 - (1 : Nat)⟩, ?_, ?_⟩
    · rw [Decimal.value, Decimal.value, hl]
      push_cast
      rw [show (ts.length + k - ts.length : Int) = k by omega, zpow_natCast]
      field_simp
    · rw [hz]
      simpa using hr

/-- What `Layout.magnitude` writes is read as a decimal of the same value. -/
theorem read_magnitude (hf : f.pointZero = true) (hd : d.digits ≠ 0) (negative : Bool) :
    ∃ c : Decimal, c.value = d.value ∧
      read (sign negative ++ (f.magnitude d).toList) = .number (.float (c.toFloat negative)) := by
  have hall : digitsValue 0 (Nat.toDigits 10 d.digits) ≠ 0 := by rwa [digitsValue_toDigits]
  obtain ⟨k, hk, hne, hdig⟩ := trimZeros_spec (.toDigits _) hall
  have hlen := congrArg List.length hk
  have hval := digitsValue_toDigits d.digits
  rw [hk, digitsValue_append, digitsValue_zeros] at hval
  rw [List.length_append, List.length_replicate] at hlen
  -- the decimal with the digits that are written
  have hvalue : (⟨digitsValue 0 (trimZeros (Nat.toDigits 10 d.digits)),
      (Nat.toDigits 10 d.digits).length - 1 + d.exponent + 1 -
        (trimZeros (Nat.toDigits 10 d.digits)).length⟩ : Decimal).value = d.value := by
    rw [Decimal.value, Decimal.value]
    conv_rhs => rw [← hval]
    dsimp only
    rw [show ((Nat.toDigits 10 d.digits).length - 1 + d.exponent + 1 -
      (trimZeros (Nat.toDigits 10 d.digits)).length : Int) = k + d.exponent by omega,
      zpow_add₀ (by norm_num), zpow_natCast]
    push_cast
    ring
  rw [← hvalue]
  unfold Layout.magnitude
  simp only [hf, if_neg hd, if_true]
  split
  · exact read_exponential _ f.exponentWidth negative hdig hne
  split
  · next hl => exact read_small hdig hl negative
  · next hl => exact read_positional hdig hne (by omega) (by omega) negative

/-- A decimal set out is read as the double nearest to it. -/
theorem read_decimal (d : Decimal) (negative : Bool) :
    read (sign negative ++ (layout.magnitude d).toList) = .number (.float (d.toFloat negative)) := by
  by_cases hd : d.digits = 0
  · have hr := @read_point _ _ [] (.zeros 1) (by simp) (.zeros 1) 0 rfl (by simp) negative
    have htext : (layout.magnitude d).toList = ['0', '.', '0'] := by
      simp [Layout.magnitude, layout, hd]
    have hz (c : Decimal) (hc : c.digits = 0) : c.toFloat negative = ofRatio negative 0 1 := by
      rw [Decimal.toFloat, if_pos (by simp [hc])]
    rw [hz _ (by rfl)] at hr
    rw [htext, hz d hd]
    simpa using hr
  · obtain ⟨c, hc, hr⟩ := @read_magnitude layout d rfl hd negative
    rw [hr, Decimal.toFloat_congr hc]

/-- A finite double is written as a decimal next to it, after its sign. -/
theorem text_float {x : Float} {d : Dyadic} (hd : dyadic? x = some d) :
    ∃ c : Decimal, c.toFloat d.negative = x ∧
      (text (.float x)).toList = sign d.negative ++ (layout.magnitude c).toList := by
  have hsign : (if d.negative then "-" else "").toList = sign d.negative := by
    unfold sign
    split <;> rfl
  refine ⟨if d.mantissa = 0 then ⟨0, 0⟩ else shortest x d, ?_, ?_⟩
  · split
    · next hm => rw [Decimal.toFloat, if_pos (by rfl), ofRatio_zero hd hm]
    · next hm => exact (shortest_spec hd (Nat.pos_of_ne_zero hm)).2
  · rw [text, Layout.write, hd]
    simp only [String.toList_append, hsign]

theorem exists_dyadic {x : Float} (hx : x.isFinite = true) : ∃ d, dyadic? x = some d := by
  obtain ⟨_, _, _, _, _, _, _, hd⟩ := dyadic?_eq hx
  exact ⟨_, hd⟩

/-- **A finite double is read back.** -/
theorem read_float {x : Float} (hx : x.isFinite = true) :
    read (text (.float x)).toList = .number (.float x) := by
  obtain ⟨d, hd⟩ := exists_dyadic hx
  obtain ⟨c, hc, htext⟩ := text_float hd
  rw [htext, read_decimal, hc]

/-- **Numbers are read back.** -/
theorem read_text {n : Number} (hw : n.writable = true)
    (hf : ∀ x, n = .float x → x.isFinite = true) : read n.text.toList = .number n := by
  cases n with
  | int n => exact read_int hw
  | float x => exact read_float (hf x rfl)

/-! ### The characters of numbers -/

/-- The characters that finite numbers are written with. -/
def isNumeral (c : Char) : Bool := c.isDigit || "+-.e".toList.contains c

/-- The text consists of such characters. -/
def IsNumeral (cs : List Char) : Prop := ∀ c ∈ cs, isNumeral c = true

instance (cs : List Char) : Decidable (IsNumeral cs) := List.decidableBAll _ cs

theorem IsDigits.isNumeral {cs : List Char} (h : IsDigits cs) : IsNumeral cs :=
  fun c hc => by simp [Number.isNumeral, h c hc]

theorem IsNumeral.append {cs cs' : List Char} (h : IsNumeral cs) (h' : IsNumeral cs') :
    IsNumeral (cs ++ cs') := List.forall_mem_append.mpr ⟨h, h'⟩

theorem IsNumeral.tail {c : Char} {cs : List Char} (h : IsNumeral (c :: cs)) : IsNumeral cs :=
  fun x hx => h x (List.mem_cons_of_mem _ hx)

theorem IsNumeral.cons {c : Char} {cs : List Char} (h : IsNumeral cs)
    (hc : Number.isNumeral c = true) : IsNumeral (c :: cs) := List.forall_mem_cons.mpr ⟨hc, h⟩

theorem isNumeral_trimZeros {cs : List Char} (h : IsDigits cs) : IsNumeral (trimZeros cs) := by
  intro c hc
  unfold trimZeros at hc
  dsimp only at hc
  split at hc
  · rw [List.mem_singleton.mp hc]
    rfl
  · have := (List.dropWhile_suffix _).subset (List.mem_reverse.mp hc)
    exact h.isNumeral c (List.mem_reverse.mp this)

theorem isNumeral_exponentText (width : Nat) (e : Int) :
    IsNumeral (exponentText width e).toList := by
  unfold exponentText
  have hd := ((IsDigits.zeros (width - (toString e.natAbs).length)).append
    (.toDigits e.natAbs)).isNumeral
  split
  · simpa using hd.cons (c := '-') rfl
  · simpa using hd.cons (c := '+') rfl

theorem isNumeral_magnitude (f : Layout) (d : Decimal) : IsNumeral (f.magnitude d).toList := by
  have ht := isNumeral_trimZeros (.toDigits d.digits)
  have he (e : Int) := isNumeral_exponentText f.exponentWidth e
  unfold Layout.magnitude
  dsimp only
  generalize trimZeros (Nat.toDigits 10 d.digits) = ts at ht ⊢
  split
  · split <;> decide
  split
  · rw [String.toList_append, String.toList_append]
    refine ((?_ : IsNumeral _).append (by decide)).append (he _)
    split
    · next a b more =>
      rw [String.toList_ofList]
      exact ((ht.tail).cons rfl).cons (ht a (by simp))
    · rwa [String.toList_ofList]
  split
  · rw [String.toList_append, String.toList_ofList, String.toList_ofList]
    have h0 : IsNumeral ['0', '.'] := by decide
    exact h0.append ((IsDigits.zeros _).isNumeral.append ht)
  · next hl =>
    generalize ((Nat.toDigits 10 d.digits).length - 1 + d.exponent : Int).toNat + 1 = whole
    have hp := ht.append (IsDigits.zeros (whole - ts.length)).isNumeral
    generalize ts ++ List.replicate (whole - ts.length) '0' = padded at hp ⊢
    have hdrop : IsNumeral (padded.drop whole) := fun c hc => hp c (List.mem_of_mem_drop hc)
    have htake : IsNumeral (padded.take whole) := fun c hc => hp c (List.mem_of_mem_take hc)
    have hdot : IsNumeral ['.'] := by decide
    split
    · rw [String.toList_append, String.toList_ofList]
      refine hp.append ?_
      split <;> decide
    · simp only [String.toList_append, String.toList_ofList]
      exact (htake.append hdot).append hdrop

/-- A finite number is written with such characters only, at least one. -/
theorem isNumeral_text {n : Number} (hf : ∀ x, n = .float x → x.isFinite = true) :
    IsNumeral n.text.toList := by
  cases n with
  | int n =>
    rw [text_int]
    have hsign : IsNumeral (sign (n < 0)) := by
      unfold sign
      split <;> decide
    exact hsign.append (IsDigits.toDigits _).isNumeral
  | float x =>
    obtain ⟨d, hd⟩ := exists_dyadic (hf x rfl)
    have hsign : IsNumeral (if d.negative then "-" else "").toList := by split <;> decide
    rw [text, Layout.write, hd]
    simp only [String.toList_append]
    exact hsign.append (isNumeral_magnitude _ _)

/-! ### Numbers that were read -/

theorem digitValue?_lt {c : Char} {n : Nat} (h : Text.digitValue? c = some n) : n < 10 := by
  unfold Text.digitValue? at h
  split at h
  · split at h
    · next hc =>
      simp only [Char.isDigit, Bool.and_eq_true, decide_eq_true_eq] at hc
      obtain rfl := Option.some.inj h
      have h57 : c.toNat ≤ 57 := hc.2
      omega
    · contradiction
  · obtain ⟨z, hz, rfl⟩ := Option.map_eq_some_iff.mp h
    have hz := List.find?_some hz
    simp only [Bool.and_eq_true, decide_eq_true_eq] at hz
    omega

theorem digitsValue_lt (cs : List Char) (n : Nat) :
    digitsValue n cs < (n + 1) * 10 ^ cs.length := by
  induction cs generalizing n with
  | nil => simp [digitsValue]
  | cons c cs ih =>
    have hd : (Text.digitValue? c).getD 0 < 10 := by
      cases h : Text.digitValue? c with
      | none => simp
      | some d => exact digitValue?_lt h
    calc digitsValue n (c :: cs)
        = digitsValue (n * 10 + (Text.digitValue? c).getD 0) cs := rfl
      _ < (n * 10 + (Text.digitValue? c).getD 0 + 1) * 10 ^ cs.length := ih _
      _ ≤ (n + 1) * 10 * 10 ^ cs.length := Nat.mul_le_mul_right _ (by omega)
      _ = (n + 1) * 10 ^ (c :: cs).length := by rw [List.length_cons, pow_succ']; ring

/-- A number that was read is not too long to be written. -/
theorem writable_of_read {cs : List Char} {n : Number} (h : read cs = .number n) :
    n.writable = true := by
  unfold read at h
  dsimp only at h
  split at h
  · next hw =>
    split at h
    · contradiction
    · next hl =>
      obtain rfl := Reading.number.inj h
      generalize (splitSign cs).2.takeWhile Text.isDigit = whole at hw hl
      have hlt := digitsValue_lt whole 0
      have hne : whole ≠ [] := by
        rintro rfl
        simp at hw
      rw [Nat.zero_add, Nat.one_mul] at hlt
      have hlen := (Nat.length_toDigits_le_iff (by norm_num) (List.length_pos_iff.mpr hne)).mpr hlt
      rw [writable, decide_eq_true_eq, digitCount]
      split <;> simp only [Int.natAbs_neg, Int.natAbs_natCast] <;> omega
  · split at h
    all_goals
      split at h
      · contradiction
      split at h
      · contradiction
      · obtain rfl := Reading.number.inj h
        rfl

end CaseDict.Number
