import CaseDict.Proofs.Lexing
/-! # Texts behind each other

No token goes on behind a line break, unless it is quoted text that is not complete before. So if
lexing a text comes to its end, a line break and another text behind it change nothing, and the
tokens of the other text follow (`lex_append`); its lines are counted on from where the first text
ends. -/

namespace CaseDict.Lexer

variable {c : Char} {cs rest : List Char} {line : Int}

/-! ### Gaps -/

theorem skipGap_inComment {start : Int} (h : ¬(c = '*' ∧ cs.head? = some '/')) :
    skipGap (.blockComment start) line (c :: cs) =
      skipGap (.blockComment start) (if c = '\n' then line + 1 else line) cs := by
  rw [skipGap.eq_def]
  split <;> simp_all

/-- A gap goes on in the next line, or ends where it ended. -/
theorem skipGap_append {gap : Gap} {line' : Int} (h : skipGap gap line cs = .ok (line', rest))
    (tail : List Char) : skipGap gap line (cs ++ '\n' :: tail) =
      if rest = [] then skipGap .plain (line' + 1) tail else .ok (line', rest ++ '\n' :: tail) := by
  have hnewline (line : Int) : skipGap .plain line ('\n' :: tail) =
      skipGap .plain (line + 1) tail := skipGap_blank (by decide)
  fun_induction skipGap gap line cs with
  | case1 line cs ih => simpa [skipGap] using ih h
  | case2 line cs ih => simpa [skipGap] using ih h
  | case3 line cs h1 h2 ih =>
    rw [List.cons_append, skipGap_blank (by decide)]
    exact ih h
  | case4 line c cs h1 h2 hn hb ih =>
    rw [List.cons_append, skipGap_blank hb, if_neg hn]
    exact ih h
  | case5 line c cs h1 h2 hn hb =>
    cases h
    rw [if_neg (List.cons_ne_nil _ _), List.cons_append, skipGap_of_not_startsGap]
    cases cs with
    | nil => simp [startsGap, hb]
    | cons a cs =>
      have h1 := h1 cs
      have h2 := h2 cs
      simp_all [startsGap]
  | case6 line =>
    cases h
    rw [if_pos rfl, List.nil_append]
    exact hnewline _
  | case7 line cs ih => simpa [skipGap] using ih h
  | case8 line c cs hn ih => simpa [skipGap, hn] using ih h
  | case9 line =>
    cases h
    simp [skipGap]
  | case10 start line cs ih => simpa [skipGap] using ih h
  | case11 start line c cs h1 ih =>
    rw [List.cons_append, skipGap_inComment]
    · exact ih h
    · rintro ⟨rfl, hc⟩
      cases cs with
      | nil => simp at hc
      | cons a cs => exact h1 cs rfl (by simp_all)
  | case12 => contradiction

/-- Lines are counted up to the end of a gap. -/
theorem skipGap_line {gap : Gap} {line' : Int} (h : skipGap gap line cs = .ok (line', rest)) :
    line' + newlines rest = line + newlines cs := by
  unfold newlines
  fun_induction skipGap gap line cs <;> grind

/-! ### Lexemes -/

theorem splitQuoted_append {content : List Char} (h : splitQuoted cs = some (content, rest))
    (tail : List Char) : splitQuoted (cs ++ tail) = some (content, rest ++ tail) := by
  fun_induction splitQuoted cs generalizing content with
  | case1 cs ih | case2 cs ih =>
    obtain ⟨⟨inner, left⟩, hinner, heq⟩ := Option.map_eq_some_iff.mp h
    cases heq
    simp [splitQuoted, ih hinner]
  | case3 cs =>
    cases h
    rfl
  | case4 c cs h1 h2 h3 ih =>
    obtain ⟨⟨inner, left⟩, hinner, heq⟩ := Option.map_eq_some_iff.mp h
    cases heq
    have hne : cs ≠ [] := by
      rintro rfl
      cases hinner
    obtain ⟨a, as, rfl⟩ := List.exists_cons_of_ne_nil hne
    have hi := ih hinner
    rw [List.cons_append] at hi ⊢
    rw [List.cons_append, splitQuoted.eq_def]
    split <;> simp_all
  | case5 => contradiction

theorem newlines_splitQuoted {content : List Char} (h : splitQuoted cs = some (content, rest)) :
    newlines content + newlines rest = newlines cs := by
  unfold newlines
  fun_induction splitQuoted cs generalizing content <;> grind [Option.map_eq_some_iff]

theorem Braced.eq_of_cons_closed {c : Char} {b : Braced} {name rest : List Char}
    (h : b.cons c = .closed name rest) : ∃ inner, b = .closed inner rest ∧ name = c :: inner := by
  cases b <;> simp_all [Braced.cons]

theorem splitBraced_append {depth : Nat} {name : List Char}
    (h : splitBraced depth cs = .closed name rest) (tail : List Char) :
    splitBraced depth (cs ++ tail) = .closed name (rest ++ tail) ∧ newlines rest = newlines cs := by
  unfold newlines
  fun_induction splitBraced depth cs generalizing name <;>
    grind [Braced.eq_of_cons_closed, splitBraced, Braced.cons]

theorem splitWord_newline (depth : Nat) (cs tail : List Char) :
    splitWord depth (cs ++ '\n' :: tail) =
      ((splitWord depth cs).1, (splitWord depth cs).2 ++ '\n' :: tail) ∧
    newlines (splitWord depth cs).2 = newlines cs := by
  unfold newlines
  induction cs generalizing depth with
  | nil =>
    refine ⟨splitWord_of_stops fun c hc => .inl ?_, rfl⟩
    obtain rfl := Option.some.inj hc
    decide
  | cons c cs ih =>
    obtain ⟨hword, hcount⟩ := ih (deeper depth c)
    have hends : endsWord depth c (cs ++ '\n' :: tail) = endsWord depth c cs := by
      cases cs <;> simp [endsWord]
    rw [List.cons_append, splitWord_cons, splitWord_cons, hends]
    split
    · exact ⟨rfl, rfl⟩
    · next he =>
      have hne : c ≠ '\n' := by
        rintro rfl
        exact he rfl
      rw [hword]
      exact ⟨rfl, by simp [hne, hcount]⟩

theorem span_newline {p : Char → Bool} (hp : p '\n' = false) (cs tail : List Char) :
    (cs ++ '\n' :: tail).takeWhile p = cs.takeWhile p ∧
    (cs ++ '\n' :: tail).dropWhile p = cs.dropWhile p ++ '\n' :: tail ∧
    newlines (cs.dropWhile p) = newlines cs := by
  unfold newlines
  induction cs with
  | nil => simp [hp]
  | cons c cs ih =>
    obtain ⟨htake, hdrop, hcount⟩ := ih
    cases hc : p c with
    | false => simp [hc]
    | true =>
      have hne : c ≠ '\n' := by
        rintro rfl
        exact absurd (hp.symm.trans hc) Bool.false_ne_true
      simp [hc, htake, hdrop, hne, hcount]

theorem reference_append {s : Step} (h : reference line cs = .ok s) (tail : List Char) :
    reference line (cs ++ '\n' :: tail) = .ok { s with rest := s.rest ++ '\n' :: tail } ∧
      s.line + newlines s.rest = line + newlines cs := by
  unfold reference at h
  split at h
  · next cs =>
    split at h
    · next name rest hbraced =>
      obtain ⟨hsplit, hcount⟩ := splitBraced_append hbraced ('\n' :: tail)
      have hcount' : newlines ('{' :: cs) = newlines cs := by simp [newlines]
      rw [List.cons_append, reference, hsplit]
      dsimp only
      split at h
      · contradiction
      · cases h
        exact ⟨rfl, by dsimp only; omega⟩
    · contradiction
    · contradiction
  · next hne =>
    obtain ⟨htake, hdrop, hcount⟩ := span_newline (p := isReferenceChar) (by decide) cs tail
    have hne' (ds : List Char) : cs ++ '\n' :: tail ≠ '{' :: ds := by
      cases cs with
      | nil => simp
      | cons c cs =>
        rintro heq
        obtain ⟨rfl, -⟩ := List.cons.inj heq
        exact hne cs rfl
    rw [reference.eq_2 _ _ fun ds hds => hne' ds hds, htake, hdrop]
    split at h
    · contradiction
    · cases h
      exact ⟨rfl, congrArg (line + ·) hcount⟩

/-- A lexeme is read to its end, and no further than a line break. -/
theorem lexeme_append {s : Step} (h : lexeme line c cs = .ok s) (tail : List Char) :
    lexeme line c (cs ++ '\n' :: tail) = .ok { s with rest := s.rest ++ '\n' :: tail } ∧
      s.line + newlines s.rest = line + newlines cs := by
  unfold lexeme at h ⊢
  split at h
  · next hc =>
    rw [if_pos hc]
    unfold quoted at h ⊢
    split at h
    · next content rest hq =>
      cases h
      rw [splitQuoted_append hq]
      have hcount := newlines_splitQuoted hq
      exact ⟨rfl, by dsimp only; omega⟩
    · contradiction
  next hc =>
  rw [if_neg hc]
  split at h
  · next hc =>
    rw [if_pos hc]
    exact reference_append h tail
  next hc =>
  rw [if_neg hc]
  split at h
  · next hc =>
    obtain ⟨htake, hdrop, hcount⟩ := span_newline (p := Text.isWord) (by decide) cs tail
    rw [if_pos hc]
    unfold directive at h ⊢
    rw [htake, hdrop]
    split at h
    · contradiction
    · next name hname =>
      cases h
      exact ⟨rfl, congrArg (line + ·) hcount⟩
  next hc =>
  rw [if_neg hc]
  split at h
  · cases h
    exact ⟨rfl, rfl⟩
  · obtain ⟨hword, hcount⟩ := splitWord_newline 0 cs tail
    unfold word at h ⊢
    rw [hword]
    dsimp only at h ⊢
    cases hk : classify (c :: (splitWord 0 cs).1) with
    | error f =>
      rw [hk] at h
      cases h
    | ok symbol =>
      rw [hk] at h
      cases h
      exact ⟨rfl, congrArg (line + ·) hcount⟩

theorem nextStep_append {s : Step} (h : nextStep line cs = .ok (some s)) (tail : List Char) :
    nextStep line (cs ++ '\n' :: tail) = .ok (some { s with rest := s.rest ++ '\n' :: tail }) ∧
      s.line + newlines s.rest = line + newlines cs := by
  unfold nextStep at h
  split at h
  · contradiction
  · cases h
  · next line' c rest hgap =>
    obtain ⟨hgap', -⟩ := skipGap_spec hgap
    have hc : c ≠ '\n' := by
      rintro rfl
      have hblank : Text.isBlank '\n' = true := by decide
      simp [startsGap, hblank] at hgap'
    have hline := skipGap_line hgap
    have hskip := skipGap_append hgap tail
    rw [if_neg (List.cons_ne_nil _ _)] at hskip
    cases hl : lexeme line' c rest with
    | error f =>
      rw [hl] at h
      cases h
    | ok s' =>
      rw [hl] at h
      cases h
      obtain ⟨hlexeme, hcount⟩ := lexeme_append hl tail
      refine ⟨?_, ?_⟩
      · rw [nextStep, hskip]
        dsimp only [List.cons_append]
        rw [hlexeme]
        rfl
      · have hnewlines : newlines (c :: rest) = newlines rest := by simp [newlines, hc]
        omega

theorem nextStep_append_none (h : nextStep line cs = .ok none) (tail : List Char) :
    nextStep line (cs ++ '\n' :: tail) = nextStep (line + newlines cs + 1) tail := by
  unfold nextStep at h
  split at h
  · contradiction
  · next line' hgap =>
    have hcount := skipGap_line hgap
    have hskip := skipGap_append hgap tail
    rw [if_pos rfl] at hskip
    have hline : line' = line + newlines cs := by
      rw [← hcount]
      exact (Int.add_zero _).symm
    rw [nextStep, nextStep, hskip, hline]
  · next line' c rest hgap =>
    cases hl : lexeme line' c rest <;> rw [hl] at h <;> cases h

/-- The tokens of a text with a line break behind it are followed by those of what comes next. -/
theorem lex_append (h : (lex line cs).fault = none) (tail : List Char) :
    lex line (cs ++ '\n' :: tail) =
      ⟨(lex line cs).tokens ++ (lex (line + newlines cs + 1) tail).tokens,
        (lex (line + newlines cs + 1) tail).fault⟩ := by
  induction hn : cs.length using Nat.strongRecOn generalizing line cs with
  | ind n ih =>
    cases hs : nextStep line cs with
    | error f =>
      rw [lex.eq_def, hs] at h
      cases h
    | ok found =>
      cases found with
      | none =>
        have hnone : lex line cs = ⟨[], none⟩ := by
          rw [lex.eq_def, hs]
        have htail := nextStep_append_none hs tail
        rw [hnone, List.nil_append, lex.eq_def, htail, ← lex.eq_def]
      | some s =>
        obtain ⟨hnext, hline⟩ := nextStep_append hs tail
        rw [lex_of_nextStep hs] at h ⊢
        rw [lex_of_nextStep hnext, ih _ (hn ▸ nextStep_length_lt hs) h rfl, hline]
        rfl

/-! ### Lines -/

theorem lexeme_token_line {s : Step} (h : lexeme line c cs = .ok s) : s.token.line = line := by
  unfold lexeme at h
  split at h
  · grind [quoted]
  split at h
  · unfold reference at h
    split at h <;> grind
  split at h
  · grind [directive]
  · split at h
    · grind
    · unfold word at h
      dsimp only at h
      cases hk : classify (c :: (splitWord 0 cs).1) <;> rw [hk] at h <;> cases h
      rfl

theorem nextStep_line_le {s : Step} (h : nextStep line cs = .ok (some s)) :
    line ≤ s.token.line := by
  unfold nextStep at h
  split at h
  · contradiction
  · cases h
  · next line' c rest hgap =>
    have hline := skipGap_line hgap
    obtain ⟨-, hsuffix⟩ := skipGap_spec hgap
    have hcount : (c :: rest).count '\n' ≤ cs.count '\n' := hsuffix.sublist.count_le _
    cases hl : lexeme line' c rest with
    | error f =>
      rw [hl] at h
      cases h
    | ok s' =>
      rw [hl] at h
      cases h
      rw [lexeme_token_line hl]
      unfold newlines at hline
      omega

/-- No token stands before the first line. -/
theorem le_line_of_head? {t : Token} (h : (lex line cs).tokens.head? = some t) :
    line ≤ t.line := by
  rw [lex.eq_def] at h
  split at h
  · contradiction
  · contradiction
  · next s hs =>
    obtain rfl := Option.some.inj h
    exact nextStep_line_le hs

/-- A terminator in a line of its own. -/
theorem lex_terminator (line : Int) (cs : List Char) : lex line (';' :: '\n' :: cs) =
    ⟨⟨.terminator, line⟩ :: (lex (line + 1) cs).tokens, (lex (line + 1) cs).fault⟩ := by
  have hnext : nextStep line (';' :: '\n' :: cs) =
      .ok (some ⟨⟨.terminator, line⟩, line, '\n' :: cs⟩) := rfl
  have hblank : lex line ('\n' :: cs) = lex (line + 1) cs := by
    have hgap : nextStep line ('\n' :: cs) = nextStep (line + 1) cs := by
      rw [nextStep, nextStep, skipGap_blank (by decide), if_pos rfl]
    rw [lex.eq_def, hgap, ← lex.eq_def]
  rw [lex_of_nextStep hnext, hblank]

end CaseDict.Lexer
