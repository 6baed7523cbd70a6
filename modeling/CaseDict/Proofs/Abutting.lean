import CaseDict.Proofs.Joining
import CaseDict.Proofs.Levels
/-! # Texts that are lexed apart

Where a text stands decides nothing but the lines of its tokens (`lex_later`). Two texts join if the
tokens of both together are those of each (`Joins`), as they do at a line break. A text that begins
and ends with one joins whatever stands around it. -/

namespace CaseDict

namespace Lexer

variable {c : Char} {cs tail : List Char} {line : Int}

/-! ### Lines are counted on -/

def LexFault.later (k : Int) : LexFault → LexFault
  | misplaced cause line => .misplaced cause (line + k)
  | numeralTooLong => .numeralTooLong

def Gap.later (k : Int) : Gap → Gap
  | plain => .plain
  | lineComment => .lineComment
  | blockComment start => .blockComment (start + k)

end Lexer

/-- The token further down in its text. -/
def Token.later (k : Int) (t : Token) : Token := ⟨t.symbol, t.line + k⟩

namespace Lexer

variable {c : Char} {cs tail : List Char} {line : Int}

def Step.later (k : Int) (s : Step) : Step := ⟨s.token.later k, s.line + k, s.rest⟩

/-- The tokens further down in their text. -/
def Lexed.later (k : Int) (lexed : Lexed) : Lexed :=
  ⟨lexed.tokens.map (Token.later k), lexed.fault.map (LexFault.later k)⟩

theorem skipGap_later (gap : Gap) (line : Int) (cs : List Char) (k : Int) :
    skipGap (gap.later k) (line + k) cs =
      ((skipGap gap line cs).map fun p => (p.1 + k, p.2)).mapError (LexFault.later k) := by
  have hcomm (line : Int) : line + k + 1 = line + 1 + k := Int.add_right_comm line k 1
  fun_induction skipGap gap line cs with
  | case1 line cs ih | case2 line cs ih | case10 start line cs ih =>
    simpa [Gap.later, skipGap] using ih
  | case7 line cs ih => simpa [Gap.later, skipGap, hcomm] using ih
  | case3 line cs h1 h2 ih =>
    rw [Gap.later, skipGap_blank (by decide), if_pos rfl, hcomm]
    exact ih
  | case4 line c cs h1 h2 hn hb ih =>
    rw [Gap.later, skipGap_blank hb, if_neg hn]
    exact ih
  | case5 line c cs h1 h2 hn hb =>
    rw [Gap.later, skipGap_of_not_startsGap]
    · rfl
    · cases cs with
      | nil => simp [startsGap, hb]
      | cons a cs =>
        have h1 := h1 cs
        have h2 := h2 cs
        simp_all [startsGap]
  | case6 line => rfl
  | case8 line c cs hn ih => simpa [Gap.later, skipGap, hn] using ih
  | case9 line => rfl
  | case11 start line c cs h1 ih =>
    rw [Gap.later, skipGap_inComment]
    · split at ih <;> simp_all [Gap.later]
    · rintro ⟨rfl, hc⟩
      cases cs with
      | nil => simp at hc
      | cons a cs => exact h1 cs rfl (by simp_all)
  | case12 => rfl

theorem reference_later (line : Int) (cs : List Char) (k : Int) : reference (line + k) cs =
    ((reference line cs).map (Step.later k)).mapError (LexFault.later k) := by
  unfold reference
  split
  · split
    · split <;> rfl
    · rfl
    · rfl
  · split <;> rfl

theorem lexeme_later (line : Int) (c : Char) (cs : List Char) (k : Int) : lexeme (line + k) c cs =
    ((lexeme line c cs).map (Step.later k)).mapError (LexFault.later k) := by
  unfold lexeme
  split
  · unfold quoted
    split
    · next content rest _ =>
      have hline : line + k + newlines content = line + newlines content + k :=
        Int.add_right_comm line k _
      rw [hline]
      rfl
    · rfl
  split
  · exact reference_later line cs k
  split
  · unfold directive
    split <;> rfl
  split
  · rfl
  · unfold word
    dsimp only
    cases hk : classify (c :: (splitWord 0 cs).1) with
    | ok s => rfl
    | error f =>
      unfold classify at hk
      split at hk <;> cases hk
      rfl

theorem nextStep_later (line : Int) (cs : List Char) (k : Int) : nextStep (line + k) cs =
    ((nextStep line cs).map (Option.map (Step.later k))).mapError (LexFault.later k) := by
  have hgap := skipGap_later .plain line cs k
  rw [Gap.later] at hgap
  unfold nextStep
  rw [hgap]
  rcases skipGap .plain line cs with f | ⟨line', _ | ⟨c, rest⟩⟩
  · rfl
  · rfl
  · dsimp only [Except.map, Except.mapError]
    rw [lexeme_later]
    cases lexeme line' c rest <;> rfl

/-- A text further down has the same tokens further down. -/
theorem lex_later (line : Int) (cs : List Char) (k : Int) :
    lex (line + k) cs = (lex line cs).later k := by
  induction hn : cs.length using Nat.strongRecOn generalizing line cs with
  | ind n ih =>
    have hstep := nextStep_later line cs k
    cases hs : nextStep line cs with
    | error f =>
      rw [hs] at hstep
      rw [lex.eq_def, hstep, lex.eq_def, hs]
      rfl
    | ok found =>
      rw [hs] at hstep
      cases found with
      | none =>
        rw [lex.eq_def, hstep, lex.eq_def, hs]
        rfl
      | some s =>
        rw [lex_of_nextStep hs, lex_of_nextStep hstep]
        have hrest := ih _ (hn ▸ nextStep_length_lt hs) s.line s.rest rfl
        dsimp only [Step.later]
        rw [hrest]
        rfl

end Lexer

theorem Token.AllLike.later (ts : List Token) (k : Int) :
    AllLike False ts (ts.map (Token.later k)) := by
  induction ts with
  | nil => exact .nil
  | cons t ts ih => exact .cons ⟨rfl, False.elim⟩ ih

theorem Token.level_congr {t t' : Token} (h : t'.symbol = t.symbol) (d : Nat) :
    level d t' = level d t := by
  unfold level Statement.isOtherwise
  rw [h]

theorem Token.AllLike.levels {ts ts' : List Token} (h : AllLike False ts ts') (d : Nat) :
    levels d ts' = levels d ts := by
  induction h generalizing d with
  | nil => rfl
  | cons ht _ ih =>
    rw [levels_cons, levels_cons, level_congr ht.symbol]
    exact congrArg _ (funext ih)

namespace Lexer

variable {c : Char} {cs tail : List Char} {line : Int}

/-- A text that is lexed to its end is lexed alike with another one in the lines behind it, which is
lexed as it is by itself, with its tokens and its fault further down. -/
theorem lex_joined {line : Int} {a : String} (h : (lex line a.toList).fault = none) (b : String) :
    (lex line (a ++ "\n" ++ b).toList).tokens = (lex line a.toList).tokens ++
        (lex line b.toList).tokens.map (Token.later (1 + newlines a.toList)) ∧
      (lex line (a ++ "\n" ++ b).toList).fault =
        (lex line b.toList).fault.map (LexFault.later (1 + newlines a.toList)) := by
  have hchars : (a ++ "\n" ++ b).toList = a.toList ++ '\n' :: b.toList := by simp
  have hline : line + newlines a.toList + 1 = line + (1 + newlines a.toList) := by omega
  rw [hchars, lex_append h, hline, lex_later]
  exact ⟨rfl, rfl⟩

theorem lex_joined_unclosed :
    (lex 1 "div(a // b".toList).fault = none ∧
      (lex 1 ("div(a // b" ++ "\n" ++ "c) \n\"d").toList).tokens =
        [⟨.word "div(a", 1⟩, ⟨.word "c", 2⟩, ⟨.closer .round, 2⟩] ∧
      (lex 1 ("div(a // b" ++ "\n" ++ "c) \n\"d").toList).fault =
        some (.misplaced .unterminatedText 3) := by
  have ha : lex 1 "div(a // b".toList = ⟨[⟨.word "div(a", 1⟩], none⟩ :=
    lex_of_lexWithin (n := 2) (by decide +kernel)
  have hb : lex 1 "c) \n\"d".toList =
      ⟨[⟨.word "c", 1⟩, ⟨.closer .round, 1⟩], some (.misplaced .unterminatedText 2)⟩ :=
    lex_of_lexWithin (n := 3) (by decide +kernel)
  have hfault : (lex 1 "div(a // b".toList).fault = none := by rw [ha]
  obtain ⟨htokens, hfaults⟩ := lex_joined hfault "c) \n\"d"
  rw [ha, hb] at htokens
  rw [hb] at hfaults
  exact ⟨hfault, htokens, hfaults⟩

/-- What a text is lexed to does not depend on where it stands, up to lines. -/
theorem lex_relined (line line' : Int) (cs : List Char) :
    Token.AllLike False (lex line cs).tokens (lex line' cs).tokens ∧
      (lex line' cs).fault.isSome = (lex line cs).fault.isSome := by
  obtain ⟨k, rfl⟩ : ∃ k, line' = line + k := ⟨line' - line, by omega⟩
  rw [lex_later]
  exact ⟨.later _ k, Option.isSome_map⟩

/-! ### A line break completes nothing -/

theorem skipGap_error {gap : Gap} {f : LexFault} (h : skipGap gap line cs = .error f) :
    skipGap gap line (cs ++ ['\n']) = .error f := by
  fun_induction skipGap gap line cs with
  | case1 line cs ih | case2 line cs ih | case7 line cs ih | case10 start line cs ih =>
    simpa [skipGap] using ih h
  | case3 line cs h1 h2 ih =>
    rw [List.cons_append, skipGap_blank (by decide)]
    exact ih h
  | case4 line c cs h1 h2 hn hb ih =>
    rw [List.cons_append, skipGap_blank hb, if_neg hn]
    exact ih h
  | case5 => contradiction
  | case6 => contradiction
  | case8 line c cs hn ih => simpa [skipGap, hn] using ih h
  | case9 => contradiction
  | case11 start line c cs h1 ih =>
    rw [List.cons_append, skipGap_inComment]
    · exact ih h
    · rintro ⟨rfl, hc⟩
      cases cs with
      | nil => simp at hc
      | cons a cs => exact h1 cs rfl (by simp_all)
  | case12 =>
    cases h
    rfl

theorem splitQuoted_none (h : splitQuoted cs = none) : splitQuoted (cs ++ ['\n']) = none := by
  fun_induction splitQuoted cs with
  | case1 cs ih | case2 cs ih =>
    simpa [splitQuoted] using ih (Option.map_eq_none_iff.mp h)
  | case3 => contradiction
  | case4 c cs h1 h2 h3 ih =>
    have hrest := ih (Option.map_eq_none_iff.mp h)
    have hquote : ∀ rest, cs ++ ['\n'] = '"' :: rest → c = '\\' → False := by
      rintro rest heq rfl
      cases cs with
      | nil => simp at heq
      | cons a cs =>
        obtain ⟨rfl, -⟩ := List.cons.inj heq
        exact h1 cs rfl rfl
    have hslash : ∀ rest, cs ++ ['\n'] = '\\' :: rest → c = '\\' → False := by
      rintro rest heq rfl
      cases cs with
      | nil => simp at heq
      | cons a cs =>
        obtain ⟨rfl, -⟩ := List.cons.inj heq
        exact h2 cs rfl rfl
    rw [List.cons_append, splitQuoted.eq_def]
    split <;> simp_all
  | case5 => rfl

theorem splitBraced_open {depth : Nat} (h : ∀ name rest, splitBraced depth cs ≠ .closed name rest)
    (name rest : List Char) : splitBraced depth (cs ++ ['\n']) ≠ .closed name rest := by
  intro hclosed
  have hopen {c : Char} {b : Braced} (h : ∀ name rest, b.cons c ≠ .closed name rest)
      (name rest : List Char) : b ≠ .closed name rest := by
    rintro rfl
    exact h _ _ rfl
  fun_induction splitBraced depth cs generalizing name with
  | case1 depth cs ih =>
    rw [List.cons_append, splitBraced, if_pos rfl] at hclosed
    obtain ⟨inner, hinner, -⟩ := Braced.eq_of_cons_closed hclosed
    exact ih (hopen h) inner hinner
  | case2 cs => exact h _ _ rfl
  | case3 depth cs hne hc ih =>
    rw [List.cons_append, splitBraced, if_neg hc, if_pos rfl, if_neg hne] at hclosed
    obtain ⟨inner, hinner, -⟩ := Braced.eq_of_cons_closed hclosed
    exact ih (hopen h) inner hinner
  | case4 depth cs =>
    rw [List.cons_append, splitBraced, if_neg (by decide), if_neg (by decide),
      if_pos rfl] at hclosed
    contradiction
  | case5 depth c cs h1 h2 h3 ih =>
    rw [List.cons_append, splitBraced, if_neg h1, if_neg h2, if_neg h3] at hclosed
    obtain ⟨inner, hinner, -⟩ := Braced.eq_of_cons_closed hclosed
    exact ih (hopen h) inner hinner
  | case6 => contradiction

theorem reference_error {f : LexFault} (h : reference line cs = .error f) :
    ∃ f', reference line (cs ++ ['\n']) = .error f' := by
  unfold reference at h
  split at h
  · next cs =>
    rw [List.cons_append, reference]
    split at h
    · next name rest hbraced =>
      rw [(splitBraced_append hbraced ['\n']).1]
      dsimp only
      split at h
      · exact ⟨_, rfl⟩
      · contradiction
    all_goals
      next hbraced =>
      have hopen := splitBraced_open (show ∀ name rest, splitBraced 0 cs ≠ .closed name rest by
        simp [hbraced])
      split
      · next hclosed => exact absurd hclosed (hopen _ _)
      · exact ⟨_, rfl⟩
      · exact ⟨_, rfl⟩
  · next hne =>
    obtain ⟨htake, -, -⟩ := span_newline (p := isReferenceChar) (by decide) cs []
    have hne' (ds : List Char) : cs ++ ['\n'] ≠ '{' :: ds := by
      cases cs with
      | nil => simp
      | cons c cs =>
        rintro heq
        obtain ⟨rfl, -⟩ := List.cons.inj heq
        exact hne cs rfl
    rw [reference.eq_2 _ _ fun ds hds => hne' ds hds, htake]
    split at h
    · exact ⟨_, rfl⟩
    · contradiction

theorem lexeme_error {f : LexFault} (h : lexeme line c cs = .error f) :
    ∃ f', lexeme line c (cs ++ ['\n']) = .error f' := by
  unfold lexeme at h ⊢
  split at h
  · next hc =>
    rw [if_pos hc]
    unfold quoted at h ⊢
    split at h
    · contradiction
    · next hq =>
      rw [splitQuoted_none hq]
      exact ⟨_, rfl⟩
  next hc =>
  rw [if_neg hc]
  split at h
  · next hc =>
    rw [if_pos hc]
    exact reference_error h
  next hc =>
  rw [if_neg hc]
  split at h
  · next hc =>
    rw [if_pos hc]
    unfold directive at h ⊢
    rw [(span_newline (p := Text.isWord) (by decide) cs []).1]
    split at h
    · exact ⟨_, rfl⟩
    · contradiction
  next hc =>
  rw [if_neg hc]
  split at h
  · contradiction
  · unfold word at h ⊢
    rw [(splitWord_newline 0 cs []).1]
    dsimp only at h ⊢
    cases hk : classify (c :: (splitWord 0 cs).1) with
    | error f => exact ⟨f, rfl⟩
    | ok s =>
      rw [hk] at h
      contradiction

theorem nextStep_error {f : LexFault} (h : nextStep line cs = .error f) :
    ∃ f', nextStep line (cs ++ ['\n']) = .error f' := by
  unfold nextStep at h
  split at h
  · next hgap =>
    rw [nextStep, skipGap_error hgap]
    exact ⟨_, rfl⟩
  · contradiction
  · next line' c rest hgap =>
    have hskip := skipGap_append hgap []
    rw [if_neg (List.cons_ne_nil _ _)] at hskip
    cases hl : lexeme line' c rest with
    | ok s =>
      rw [hl] at h
      contradiction
    | error f =>
      obtain ⟨f', hf'⟩ := lexeme_error hl
      rw [nextStep, hskip]
      dsimp only [List.cons_append]
      rw [hf']
      exact ⟨f', rfl⟩

/-- A text that is lexed with a line break behind it is lexed without. -/
theorem fault_of_newline (h : (lex line (cs ++ ['\n'])).fault = none) :
    (lex line cs).fault = none := by
  induction hn : cs.length using Nat.strongRecOn generalizing line cs with
  | ind n ih =>
    cases hs : nextStep line cs with
    | error f =>
      obtain ⟨f', hf'⟩ := nextStep_error hs
      rw [lex.eq_def, hf'] at h
      contradiction
    | ok found =>
      cases found with
      | none => rw [lex.eq_def, hs]
      | some s =>
        rw [lex_of_nextStep (nextStep_append hs []).1] at h
        rw [lex_of_nextStep hs]
        exact ih _ (hn ▸ nextStep_length_lt hs) h rfl

/-! ### Texts that join -/

def Lexed.behind (lexed : Lexed) (ts : List Token) : Lexed := ⟨ts ++ lexed.tokens, lexed.fault⟩

/-- The tokens of both texts together are those of the one and then those of the other. -/
def Joins (cs tail : List Char) : Prop :=
  ∀ line, lex line (cs ++ tail) = (lex (line + newlines cs) tail).behind (lex line cs).tokens

theorem lex_newline (line : Int) (cs : List Char) : lex line ('\n' :: cs) = lex (line + 1) cs := by
  have hgap : nextStep line ('\n' :: cs) = nextStep (line + 1) cs := by
    rw [nextStep, nextStep, skipGap_blank (by decide), if_pos rfl]
  rw [lex.eq_def, hgap, ← lex.eq_def]

theorem joins_newline (h : (lex line cs).fault = none) (tail : List Char) :
    Joins cs ('\n' :: tail) := by
  intro line'
  have hnone : (lex line' cs).fault = none := by
    have hsome := (lex_relined line line' cs).2
    rw [h] at hsome
    exact Option.not_isSome_iff_eq_none.mp (by simp [hsome])
  rw [lex_append hnone, lex_newline]
  rfl

theorem joins_of_getLast? (hlast : cs.getLast? = some '\n') (h : (lex line cs).fault = none)
    (tail : List Char) : Joins cs tail := by
  obtain ⟨before, rfl⟩ := List.getLast?_eq_some_iff.mp hlast
  have hbefore := fault_of_newline h
  intro line'
  have hsplit := joins_newline hbefore tail line'
  have hown := joins_newline hbefore [] line'
  have hnewlines : newlines (before ++ ['\n']) = newlines before + 1 := by simp [newlines]
  rw [List.append_assoc, List.singleton_append, hsplit, hown, lex_newline, lex_newline, lex_nil,
    hnewlines, Int.add_assoc]
  dsimp only [Lexed.behind]
  rw [List.append_nil]

end Lexer

end CaseDict
