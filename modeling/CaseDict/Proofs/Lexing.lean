import CaseDict.Lexer
/-! # Symbols in a text

What the lexer makes of the start of a text: gaps are passed over, and the text of a symbol gives
the symbol, whatever follows it, as long as that does not go on with a word. Words are the texts
that the lexer reads as one word, themselves. -/

namespace CaseDict.Lexer

variable {c : Char} {cs rest : List Char} {line : Int} {depth : Nat}

/-! ### Gaps -/

/-- A gap begins here: white space or a comment. -/
def startsGap (c : Char) (cs : List Char) : Bool :=
  Text.isBlank c || (c == '/' && (cs.head? == some '/' || cs.head? == some '*'))

theorem skipGap_of_not_startsGap (h : startsGap c cs = false) :
    skipGap .plain line (c :: cs) = .ok (line, c :: cs) := by
  simp only [startsGap, Bool.or_eq_false_iff, Bool.and_eq_false_iff, beq_eq_false_iff_ne] at h
  obtain ⟨hb, hs⟩ := h
  rw [skipGap.eq_def]
  split
  · simp_all
  · simp_all
  · next c' cs' h1 h2 heq =>
    obtain ⟨rfl, rfl⟩ := List.cons.inj heq
    have hn : c ≠ '\n' := by
      rintro rfl
      exact absurd hb (by decide)
    rw [if_neg hn, hb]
    rfl
  all_goals simp_all

theorem skipGap_blank (h : Text.isBlank c = true) :
    skipGap .plain line (c :: cs) =
      skipGap .plain (if c = '\n' then line + 1 else line) cs := by
  have hne : c ≠ '/' := by
    rintro rfl
    exact absurd h (by decide)
  rw [skipGap.eq_def]
  split
  · simp_all
  · simp_all
  · next c' cs' h1 h2 heq =>
    obtain ⟨rfl, rfl⟩ := List.cons.inj heq
    split <;> simp_all
  all_goals simp_all

/-- What is left after a gap does not begin with one, and is the end of the text. -/
theorem skipGap_spec {gap : Gap} {line' : Int} (h : skipGap gap line cs = .ok (line', c :: rest)) :
    startsGap c rest = false ∧ c :: rest <:+ cs := by
  fun_induction skipGap gap line cs with
  | case5 line c' cs h1 h2 hn hb =>
    obtain ⟨rfl, hcs⟩ := Prod.mk.inj (Except.ok.inj h)
    obtain ⟨rfl, rfl⟩ := List.cons.inj hcs
    refine ⟨?_, List.suffix_refl _⟩
    cases cs with
    | nil => simp [startsGap, hb]
    | cons a cs =>
      have h1 := h1 cs
      have h2 := h2 cs
      simp_all [startsGap]
  | _ => grind [List.suffix_cons_iff, List.IsSuffix.trans, List.suffix_cons]

/-! ### Words -/

/-- A word ends before this character, which `cs` follow. -/
def endsWord (depth : Nat) (c : Char) (cs : List Char) : Bool :=
  breaksWord c || (c == '/' && (cs.head? == some '/' || cs.head? == some '*')) ||
    ((c == ')' || c == ',') && depth == 0)

/-- How many round brackets are open after a character of a word. -/
def deeper (depth : Nat) (c : Char) : Nat :=
  if c = '(' then depth + 1 else if c = ')' then depth - 1 else depth

theorem splitWord_cons (depth : Nat) (c : Char) (cs : List Char) : splitWord depth (c :: cs) =
    if endsWord depth c cs then ([], c :: cs)
    else (c :: (splitWord (deeper depth c) cs).1, (splitWord (deeper depth c) cs).2) := by
  rw [splitWord]
  by_cases h1 : breaksWord c || (c = '/' && (cs.head? = some '/' || cs.head? = some '*'))
  · rw [if_pos h1, if_pos (by simp_all [endsWord])]
  · rw [if_neg h1]
    by_cases h2 : (c = ')' || c = ',') && depth = 0
    · rw [if_pos h2, if_pos (by simp_all [endsWord])]
    · have he : endsWord depth c cs = false := by simp_all [endsWord]
      rw [if_neg h2, he]
      rfl

/-- The text does not go on with a word in which `depth` round brackets are open. -/
def Stops (depth : Nat) (cs : List Char) : Prop :=
  ∀ c ∈ cs.head?, breaksWord c = true ∨ ((c = ')' ∨ c = ',') ∧ depth = 0)

theorem splitWord_of_stops (h : Stops depth cs) : splitWord depth cs = ([], cs) := by
  cases cs with
  | nil => rfl
  | cons c cs =>
    rw [splitWord_cons, if_pos]
    rcases h c rfl with hc | ⟨hc | hc, rfl⟩ <;> simp [endsWord, hc]

theorem splitWord_join (depth : Nat) (cs : List Char) :
    (splitWord depth cs).1 ++ (splitWord depth cs).2 = cs := by
  fun_induction splitWord depth cs <;> simp_all

/-- A word goes on in a text behind it that does not begin a comment with its last character. -/
theorem splitWord_onward (h : splitWord depth cs = (cs, []))
    (hr : ∀ a ∈ rest.head?, a ≠ '/' ∧ a ≠ '*') : splitWord depth (cs ++ rest) =
      (cs ++ (splitWord (cs.foldl deeper depth) rest).1,
        (splitWord (cs.foldl deeper depth) rest).2) := by
  induction cs generalizing depth with
  | nil => rfl
  | cons c cs ih =>
    rw [splitWord_cons] at h
    split at h
    · simp at h
    · next he =>
      obtain ⟨h1, h2⟩ := Prod.mk.inj h
      have hi : splitWord (deeper depth c) cs = (cs, []) := Prod.ext (List.cons.inj h1).2 h2
      have he' : endsWord depth c (cs ++ rest) = false := by
        cases cs with
        | cons a cs => simpa [endsWord] using he
        | nil =>
          cases rest with
          | nil => simpa [endsWord] using he
          | cons a rest =>
            have hn := hr a rfl
            simp_all [endsWord]
      rw [List.cons_append, splitWord_cons, he', ih hi]
      rfl

/-- A word is split off whatever stops it. -/
theorem splitWord_append (h : splitWord depth cs = (cs, []))
    (hr : Stops (cs.foldl deeper depth) rest) : splitWord depth (cs ++ rest) = (cs, rest) := by
  have hn : ∀ a ∈ rest.head?, a ≠ '/' ∧ a ≠ '*' := fun a ha => by
    constructor <;> rintro rfl <;> rcases hr _ ha with hr | ⟨hr, -⟩ <;> revert hr <;> decide
  rw [splitWord_onward h hn, splitWord_of_stops hr, List.append_nil]

/-- What is split off of a text is split off of itself as a whole. -/
theorem splitWord_self (depth : Nat) (cs : List Char) :
    splitWord depth (splitWord depth cs).1 = ((splitWord depth cs).1, []) := by
  induction cs generalizing depth with
  | nil => rfl
  | cons c cs ih =>
    rw [splitWord_cons]
    split
    · rfl
    · next he =>
      have he' : endsWord depth c (splitWord (deeper depth c) cs).1 = false := by
        cases cs with
        | nil => simpa [splitWord] using he
        | cons a cs =>
          rw [splitWord_cons]
          split <;> simp_all [endsWord]
      dsimp only
      rw [splitWord_cons, he', ih]
      rfl

theorem foldl_deeper_add_count (h : splitWord depth cs = (cs, [])) :
    cs.foldl deeper depth + cs.count ')' = depth + cs.count '(' := by
  induction cs generalizing depth with
  | nil => rfl
  | cons c cs ih =>
    rw [splitWord_cons] at h
    split at h
    · simp at h
    · next he =>
      obtain ⟨h1, h2⟩ := Prod.mk.inj h
      have hi := ih (Prod.ext (List.cons.inj h1).2 h2 :
        splitWord (deeper depth c) cs = (cs, []))
      have hd : c = ')' → depth ≠ 0 := by
        rintro rfl rfl
        exact he (by simp [endsWord])
      simp only [List.foldl_cons, List.count_cons]
      unfold deeper at hi ⊢
      split at hi
      · next hc =>
        subst hc
        simp at hi ⊢
        omega
      · split at hi
        · next hc =>
          subst hc
          simp at hi hd ⊢
          omega
        · simp_all

/-- The lexer reads the text as one word, which is the text. -/
def IsWord (w : String) : Prop := lex 1 w.toList = ⟨[⟨.word w, 1⟩], none⟩

/-- The character begins a lexeme other than a word. -/
def isMark (c : Char) : Bool := c == '"' || c == '$' || c == '#' || (single? c).isSome

theorem lexeme_word (hc : isMark c = false) : lexeme line c cs = word line c cs := by
  simp only [isMark, Bool.or_eq_false_iff, beq_eq_false_iff_ne] at hc
  obtain ⟨⟨⟨h1, h2⟩, h3⟩, h4⟩ := hc
  rw [lexeme, if_neg h1, if_neg h2, if_neg h3]
  cases hs : single? c with
  | none => rfl
  | some s => simp [hs] at h4

theorem nextStep_of_not_startsGap (h : startsGap c cs = false) :
    nextStep line (c :: cs) = (lexeme line c cs).map some := by
  rw [nextStep, skipGap_of_not_startsGap h]

theorem nextStep_word {more : List Char} {s : Symbol} (hg : startsGap c cs = false)
    (hc : isMark c = false) (hw : splitWord 0 cs = (more, rest))
    (hk : classify (c :: more) = .ok s) :
    nextStep line (c :: cs) = .ok (some ⟨⟨s, line⟩, line, rest⟩) := by
  rw [nextStep_of_not_startsGap hg, lexeme_word hc, word, hw]
  simp only [hk]
  rfl

theorem lex_of_nextStep {s : Step} (h : nextStep line cs = .ok (some s)) :
    lex line cs = ⟨s.token :: (lex s.line s.rest).tokens, (lex s.line s.rest).fault⟩ := by
  rw [lex.eq_def]
  split
  · simp_all
  · simp_all
  · next s' h' =>
    obtain rfl : s' = s := by simpa [h] using h'.symm
    rfl

theorem lex_of_fault {f : LexFault} (h : nextStep line cs = .error f) :
    lex line cs = ⟨[], some f⟩ := by
  rw [lex.eq_def, h]

theorem lex_of_end (h : nextStep line cs = .ok none) : lex line cs = ⟨[], none⟩ := by
  rw [lex.eq_def, h]

theorem lex_nil : lex line [] = ⟨[], none⟩ := lex_of_end rfl

/-- What lexing comes to if it ends within `n` steps. As it is recursive in their number it is
evaluated faster than `lex`. -/
def lexWithin : Nat → Int → List Char → Option Lexed
  | 0, _, _ => none
  | n + 1, line, cs =>
    match nextStep line cs with
    | .error f => some ⟨[], some f⟩
    | .ok none => some ⟨[], none⟩
    | .ok (some s) =>
      (lexWithin n s.line s.rest).map fun more => ⟨s.token :: more.tokens, more.fault⟩

theorem lex_of_lexWithin {n : Nat} {lexed : Lexed} (h : lexWithin n line cs = some lexed) :
    lex line cs = lexed := by
  induction n generalizing line cs lexed with
  | zero => contradiction
  | succ n ih =>
    unfold lexWithin at h
    split at h
    · next hs => rw [lex_of_fault hs, Option.some.inj h]
    · next hs => rw [lex_of_end hs, Option.some.inj h]
    · next s hs =>
      obtain ⟨more, hm, rfl⟩ := Option.map_eq_some_iff.mp h
      rw [lex_of_nextStep hs, ih hm]

theorem nextStep_eq_some {s : Step} (h : nextStep line cs = .ok (some s)) : ∃ line' c rest,
    c :: rest <:+ cs ∧ startsGap c rest = false ∧ lexeme line' c rest = .ok s := by
  unfold nextStep at h
  split at h
  · contradiction
  · simp at h
  · next line' c rest hg =>
    obtain ⟨hs, hsuffix⟩ := skipGap_spec hg
    refine ⟨line', c, rest, hsuffix, hs, ?_⟩
    cases hl : lexeme line' c rest with
    | error f => simp [hl, Except.map] at h
    | ok s' => simpa [hl, Except.map] using h

theorem classify_eq_word {cs : List Char} {w : String} (h : classify cs = .ok (.word w)) :
    Number.read cs = .noNumber ∧ w = String.ofList cs := by
  unfold classify at h
  split at h
  · simp at h
  · simp at h
  · next hr => exact ⟨hr, by simpa using h.symm⟩

/-- Words and numbers are read where no mark stands, everything else at marks. -/
theorem lexeme_cases {s : Step} (h : lexeme line c cs = .ok s) :
    (isMark c = false ∧ classify (c :: (splitWord 0 cs).1) = .ok s.token.symbol) ∨
      (∀ w, s.token.symbol ≠ .word w) ∧ ∀ n, s.token.symbol ≠ .number n := by
  by_cases hc : isMark c = false
  · rw [lexeme_word hc, word] at h
    cases hk : classify (c :: (splitWord 0 cs).1) with
    | error f => simp [hk, Except.map] at h
    | ok k =>
      simp only [hk, Except.map, Except.ok.injEq] at h
      subst h
      exact .inl ⟨hc, rfl⟩
  · right
    unfold lexeme at h
    split at h
    · unfold quoted at h
      split at h <;> grind
    split at h
    · unfold reference at h
      split at h
      · grind
      · grind
    split at h
    · unfold directive at h
      grind
    · split at h
      · next k hk =>
        unfold single? at hk
        grind
      · next hk => simp_all [isMark]

/-- The lexeme is a word. -/
theorem lexeme_eq_word {s : Step} {w : String} (h : lexeme line c cs = .ok s)
    (hs : s.token.symbol = .word w) : isMark c = false ∧ w.toList = c :: (splitWord 0 cs).1 ∧
      Number.read (c :: (splitWord 0 cs).1) = .noNumber := by
  rcases lexeme_cases h with ⟨hc, hk⟩ | ⟨hw, -⟩
  · rw [hs] at hk
    obtain ⟨hn, rfl⟩ := classify_eq_word hk
    exact ⟨hc, String.toList_ofList, hn⟩
  · exact absurd hs (hw w)

theorem startsGap_splitWord (h : startsGap c cs = false) :
    startsGap c (splitWord depth cs).1 = false := by
  cases cs with
  | nil => exact h
  | cons a cs =>
    rw [splitWord_cons]
    split <;> simp_all [startsGap]

theorem isWord_iff {w : String} : IsWord w ↔ ∃ c cs, w.toList = c :: cs ∧
    startsGap c cs = false ∧ isMark c = false ∧ splitWord 0 cs = (cs, []) ∧
    Number.read (c :: cs) = .noNumber := by
  constructor
  · intro h
    unfold IsWord at h
    rw [lex.eq_def] at h
    split at h
    · simp at h
    · simp at h
    · next s hn =>
      obtain ⟨line, c, rest, hsuffix, hgap, hl⟩ := nextStep_eq_some hn
      have hs : s.token.symbol = .word w := by
        simp only [Lexed.mk.injEq, List.cons.injEq] at h
        rw [h.1.1]
      obtain ⟨hc, hw, hr⟩ := lexeme_eq_word hl hs
      -- the word is all of the text, so nothing of the text is left
      have hlen := hsuffix.length_le
      have hjoin := splitWord_join 0 rest
      have hrest : (splitWord 0 rest).2 = [] := by
        have hj := congrArg List.length hjoin
        rw [hw] at hlen
        simp only [List.length_cons, List.length_append] at hlen hj
        exact List.eq_nil_of_length_eq_zero (by omega)
      rw [hrest, List.append_nil] at hjoin
      rw [hjoin] at hw hr
      exact ⟨c, rest, hw, hgap, hc, Prod.ext hjoin hrest, hr⟩
  · rintro ⟨c, cs, hw, hgap, hc, hs, hr⟩
    have hn : nextStep 1 w.toList = .ok (some ⟨⟨.word w, 1⟩, 1, []⟩) := by
      have hk : classify (c :: cs) = .ok (.word w) := by
        unfold classify
        rw [hr, ← hw, String.ofList_toList]
      rw [hw, nextStep_word hgap hc hs hk]
    rw [IsWord, lex_of_nextStep hn, lex_nil]

/-- Every word in a text is read as itself. -/
theorem isWord_of_lexeme {s : Step} {w : String} (hg : startsGap c cs = false)
    (h : lexeme line c cs = .ok s) (hs : s.token.symbol = .word w) : IsWord w := by
  obtain ⟨hc, hw, hr⟩ := lexeme_eq_word h hs
  exact isWord_iff.mpr ⟨c, _, hw, startsGap_splitWord hg, hc, splitWord_self 0 cs, hr⟩

/-! ### The texts of symbols -/

/-- A word with as many closing as opening round brackets. -/
def IsBalanced (w : String) : Prop := w.toList.count '(' = w.toList.count ')'

/-- The text does not go on with the word: it breaks words, or the word has no bracket left open and
a bracket is closed or a comma follows. -/
def Ends (w : String) (rest : List Char) : Prop :=
  ∀ a ∈ rest.head?, breaksWord a = true ∨ ((a = ')' ∨ a = ',') ∧ IsBalanced w)

theorem startsGap_append {w : String} (hw : w.toList = c :: cs) (hg : startsGap c cs = false)
    (hr : Ends w rest) : startsGap c (cs ++ rest) = false := by
  cases cs with
  | cons a cs => simpa [startsGap] using hg
  | nil =>
    cases rest with
    | nil => simpa using hg
    | cons a rest =>
      have hn : a ≠ '/' ∧ a ≠ '*' := by
        constructor <;> rintro rfl <;> rcases hr _ rfl with hr | ⟨hr, -⟩ <;> revert hr <;> decide
      simp_all [startsGap]

theorem nextStep_isWord {w : String} (h : IsWord w) (hr : Ends w rest) :
    nextStep line (w.toList ++ rest) = .ok (some ⟨⟨.word w, line⟩, line, rest⟩) := by
  obtain ⟨c, cs, hw, hgap, hc, hs, hread⟩ := isWord_iff.mp h
  have hdepth : IsBalanced w → cs.foldl deeper 0 = 0 := by
    intro hb
    have hcount := foldl_deeper_add_count hs
    have hround : c ≠ '(' ∧ c ≠ ')' := by constructor <;> rintro rfl <;> revert hc <;> decide
    rw [IsBalanced, hw] at hb
    simp only [List.count_cons, hround, beq_iff_eq, if_false] at hb
    omega
  have hstops : Stops (cs.foldl deeper 0) rest := fun a ha =>
    (hr a ha).imp_right fun ⟨h, hb⟩ => ⟨h, hdepth hb⟩
  have hk : classify (c :: cs) = .ok (.word w) := by
    unfold classify
    rw [hread, ← hw, String.ofList_toList]
  rw [hw]
  exact nextStep_word (startsGap_append hw hgap hr) hc (splitWord_append hs hstops) hk

theorem splitQuoted_escape (cs rest : List Char) :
    splitQuoted (Symbol.escape cs ++ '"' :: rest) = some (cs, rest) := by
  induction cs with
  | nil => rfl
  | cons c cs ih =>
    unfold Symbol.escape
    split
    · next h =>
      rcases (by simpa using h : c = '"' ∨ c = '\\') with rfl | rfl
      · simp [splitQuoted, ih]
      · simp [splitQuoted, ih]
    · next h =>
      have hne : c ≠ '"' ∧ c ≠ '\\' := by simpa using h
      rw [List.cons_append, splitQuoted.eq_def]
      split <;> simp_all

/-- Quoted text is read back in front of anything, and lines are counted by its content. -/
theorem nextStep_quoted (s : String) (rest : List Char) :
    nextStep line ((Symbol.quoted s).text.toList ++ rest) =
      .ok (some ⟨⟨.quoted s, line⟩, line + newlines s.toList, rest⟩) := by
  have ht : (Symbol.quoted s).text.toList ++ rest =
      '"' :: (Symbol.escape s.toList ++ '"' :: rest) := by
    simp [Symbol.text]
  rw [ht, nextStep_of_not_startsGap (by rfl), lexeme, if_pos rfl, quoted, splitQuoted_escape]
  simp only [String.ofList_toList]
  rfl

end CaseDict.Lexer
