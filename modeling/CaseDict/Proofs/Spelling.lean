import CaseDict.Proofs.Joining
import Mathlib.Data.List.Basic
import Mathlib.Data.List.TakeWhile
/-! # How a text is spelled

A text is an alternation of gaps and sources of symbols. `IsGap` says what a gap is, `Spells` which
characters are a source of a symbol, and `Offends` what the text goes on with where the lexer stops.
They speak of characters as they stand in the text and not of how it is scanned. Every text splits
into gaps and the sources of the tokens that it is lexed to, and the line of a token is counted by
the line breaks before it (`lex_split`). -/

namespace CaseDict.Lexer

/-! ### Gaps -/

/-- White space and comments. Only at the end of a text (`last`) a line comment may do without a
line break. -/
inductive IsGap (last : Bool) : List Char → Prop where
  | nil : IsGap last []
  | blank {c : Char} {cs : List Char} (hc : Text.isBlank c = true) (h : IsGap last cs) :
    IsGap last (c :: cs)
  | lineComment {body cs : List Char} (hbody : '\n' ∉ body) (h : IsGap last cs) :
    IsGap last ('/' :: '/' :: (body ++ '\n' :: cs))
  | blockComment {body cs : List Char} (hbody : ¬ ['*', '/'] <:+: body) (h : IsGap last cs) :
    IsGap last ('/' :: '*' :: (body ++ '*' :: '/' :: cs))
  | lastComment {body : List Char} (hlast : last = true) (hbody : '\n' ∉ body) :
    IsGap last ('/' :: '/' :: body)

/-! ### Sources -/

/-- What stands between quotes for a content: a quote has a backslash before it, and so has a
backslash, which may do without before any other character. -/
inductive Escapes : List Char → List Char → Prop where
  | nil : Escapes [] []
  | escaped {c : Char} {cs content : List Char} (hc : c = '"' ∨ c = '\\') (h : Escapes cs content) :
    Escapes ('\\' :: c :: cs) (c :: content)
  | backslash {c : Char} {cs content : List Char} (hc : c ≠ '"' ∧ c ≠ '\\')
    (h : Escapes (c :: cs) content) : Escapes ('\\' :: c :: cs) ('\\' :: content)
  | plain {c : Char} {cs content : List Char} (hc : c ≠ '"' ∧ c ≠ '\\') (h : Escapes cs content) :
    Escapes (c :: cs) (c :: content)

/-- The characters stand in one line, and `depth` braces being open before them, no more braces are
closed in them than opened. -/
structure KeepsOpen (depth : Nat) (cs : List Char) : Prop where
  unbroken : '\n' ∉ cs
  opened : ∀ before, before <+: cs → before.count '}' ≤ depth + before.count '{'

/-- The characters are a source of the symbol. -/
inductive Spells : List Char → Symbol → Prop where
  | word {c : Char} {cs : List Char} {s : Symbol} (hgap : startsGap c cs = false)
    (hmark : isMark c = false) (hword : splitWord 0 cs = (cs, []))
    (hs : classify (c :: cs) = .ok s) : Spells (c :: cs) s
  | single {c : Char} {s : Symbol} (hs : single? c = some s) : Spells [c] s
  | quoted {body content : List Char} (h : Escapes body content) :
    Spells ('"' :: (body ++ ['"'])) (.quoted (String.ofList content))
  | reference {name : List Char} (hne : name ≠ []) (hname : ∀ c ∈ name, isReferenceChar c = true) :
    Spells ('$' :: name) (.reference (String.ofList name))
  | braced {body : List Char} (hopen : KeepsOpen 0 body) (hclosed : body.count '}' = body.count '{')
    (hne : Text.trim body ≠ []) :
    Spells ('$' :: '{' :: (body ++ ['}'])) (.reference (String.ofList (Text.trim body)))
  | directive {name : List Char} (hne : name ≠ []) (hname : ∀ c ∈ name, Text.isWord c = true) :
    Spells ('#' :: name) (.directive (String.ofList name))

/-- The text goes on with something that no symbol has as its source: the fault is in the line where
that begins. -/
inductive Offends (line : Int) : LexFault → List Char → Prop where
  | comment {cs : List Char} (h : ¬ ['*', '/'] <:+: cs) :
    Offends line (.misplaced .unterminatedComment line) ('/' :: '*' :: cs)
  | quoted {cs : List Char}
    (h : ∀ body content rest, Escapes body content → cs ≠ body ++ '"' :: rest) :
    Offends line (.misplaced .unterminatedText line) ('"' :: cs)
  | unterminated {cs : List Char} (h : KeepsOpen 0 cs) :
    Offends line (.misplaced .unterminatedReference line) ('$' :: '{' :: cs)
  | broken {body rest : List Char} (h : KeepsOpen 0 body) :
    Offends line (.misplaced .brokenReference line) ('$' :: '{' :: (body ++ '\n' :: rest))
  | empty {body rest : List Char} (h : ∀ c ∈ body, Text.isBlank c = true) (hline : '\n' ∉ body) :
    Offends line (.misplaced .emptyReference line) ('$' :: '{' :: (body ++ '}' :: rest))
  | nameless {cs : List Char} (h : ∀ c ∈ cs.head?, isReferenceChar c = false ∧ c ≠ '{') :
    Offends line (.misplaced .namelessReference line) ('$' :: cs)
  | directive {cs : List Char} (h : ∀ c ∈ cs.head?, Text.isWord c = false) :
    Offends line (.misplaced .namelessDirective line) ('#' :: cs)
  | numeral {word rest : List Char} (hword : Number.read word = .tooLong) :
    Offends line .numeralTooLong (word ++ rest)

variable {c : Char} {cs rest body : List Char} {line : Int}

/-! ### Reading gaps -/

theorem skipGap_lineComment (h : '\n' ∉ body) (line : Int) (cs : List Char) :
    skipGap .lineComment line (body ++ '\n' :: cs) = skipGap .plain (line + 1) cs := by
  induction body with
  | nil => simp [skipGap]
  | cons c body ih =>
    obtain ⟨hc, hbody⟩ := not_or.mp (mt List.mem_cons.mpr h)
    rw [List.cons_append, skipGap, if_neg (Ne.symm hc)]
    exact ih hbody

theorem skipGap_lastComment (h : '\n' ∉ body) (line : Int) :
    skipGap .lineComment line body = .ok (line, []) := by
  induction body with
  | nil => rfl
  | cons c body ih =>
    obtain ⟨hc, hbody⟩ := not_or.mp (mt List.mem_cons.mpr h)
    rw [skipGap, if_neg (Ne.symm hc)]
    exact ih hbody

/-- Where a block comment is closed first. -/
theorem closing_split (cs : List Char) : ¬ ['*', '/'] <:+: cs ∨
    ∃ body rest, cs = body ++ '*' :: '/' :: rest ∧ ¬ ['*', '/'] <:+: body := by
  induction cs with
  | nil => exact .inl (by simp)
  | cons c cs ih =>
    by_cases hc : ['*', '/'] <+: c :: cs
    · obtain ⟨rest, hrest⟩ := hc
      exact .inr ⟨[], rest, hrest.symm, by simp⟩
    · rcases ih with hcs | ⟨body, rest, rfl, hbody⟩
      · exact .inl fun h => (List.infix_cons_iff.mp h).elim hc hcs
      · refine .inr ⟨c :: body, rest, rfl, fun h => (List.infix_cons_iff.mp h).elim ?_ hbody⟩
        rintro ⟨more, hmore⟩
        exact hc ⟨more ++ '*' :: '/' :: rest, by rw [← List.append_assoc, hmore]; rfl⟩

/-- A block comment that is not closed goes on. -/
theorem skipGap_inBody (h : ¬ ['*', '/'] <:+: c :: body) (hrest : cs.head? ≠ some '/')
    (start : Int) : skipGap (.blockComment start) line (c :: (body ++ cs)) =
      skipGap (.blockComment start) (if c = '\n' then line + 1 else line) (body ++ cs) := by
  refine skipGap_inComment ?_
  rintro ⟨rfl, hhead⟩
  cases body with
  | nil => exact hrest hhead
  | cons a body =>
    obtain rfl : a = '/' := Option.some.inj hhead
    exact h ⟨[], body, rfl⟩

theorem newlines_cons (c : Char) (cs : List Char) :
    newlines (c :: cs) = newlines cs + if c = '\n' then 1 else 0 := by
  simp only [newlines, List.count_cons, beq_iff_eq]
  split <;> simp

theorem newlines_append (cs more : List Char) :
    newlines (cs ++ more) = newlines cs + newlines more := by
  simp [newlines]

theorem newlines_eq_zero (h : '\n' ∉ cs) : newlines cs = 0 := by
  rw [newlines, List.count_eq_zero.mpr h]
  rfl

theorem skipGap_blockComment (h : ¬ ['*', '/'] <:+: body) (start line : Int) (cs : List Char) :
    skipGap (.blockComment start) line (body ++ '*' :: '/' :: cs) =
      skipGap .plain (line + newlines body) cs := by
  induction body generalizing line with
  | nil => simp [skipGap, newlines]
  | cons c body ih =>
    rw [List.cons_append, skipGap_inBody h (by simp), ih fun hi => h (List.infix_cons hi),
      newlines_cons]
    congr 1
    split <;> omega

theorem skipGap_openComment (h : ¬ ['*', '/'] <:+: body) (start line : Int) :
    skipGap (.blockComment start) line body = .error (.misplaced .unterminatedComment start) := by
  induction body generalizing line with
  | nil => rfl
  | cons c body ih =>
    have hstep : skipGap (.blockComment start) line (c :: body ++ []) =
        skipGap (.blockComment start) (if c = '\n' then line + 1 else line) (body ++ []) :=
      skipGap_inBody h (by simp) start
    rw [List.append_nil, List.append_nil] at hstep
    rw [hstep]
    exact ih (fun hi => h (List.infix_cons hi)) _

/-- What skipping a gap comes to: the text is the gap and what is left, or the gap and a comment
that is not closed. -/
def Skips (line : Int) (cs : List Char) : Except LexFault (Int × List Char) → Prop
  | .ok (_, rest) => ∃ gap, cs = gap ++ rest ∧ IsGap rest.isEmpty gap
  | .error f => ∃ gap body, cs = gap ++ '/' :: '*' :: body ∧ IsGap false gap ∧
      ¬ ['*', '/'] <:+: body ∧ f = .misplaced .unterminatedComment (line + newlines gap)

theorem Skips.behind {before : List Char}
    (hgap : ∀ last gap, IsGap last gap → IsGap last (before ++ gap)) {r : Except LexFault (Int × List Char)} (h : Skips (line + newlines before) cs r) :
    Skips line (before ++ cs) r := by
  match r, h with
  | .ok (_, rest), ⟨gap, hcs, hg⟩ =>
    exact ⟨before ++ gap, by rw [hcs, List.append_assoc], hgap _ _ hg⟩
  | .error f, ⟨gap, body, hcs, hg, hbody, hf⟩ =>
    refine ⟨before ++ gap, body, by rw [hcs, List.append_assoc], hgap _ _ hg, hbody, ?_⟩
    rw [hf, newlines_append, Int.add_assoc]

theorem skips_skipGap (line : Int) (cs : List Char) : Skips line cs (skipGap .plain line cs) := by
  induction hn : cs.length using Nat.strongRecOn generalizing line cs with
  | ind n ih =>
    match cs with
    | [] => exact ⟨[], rfl, .nil⟩
    | c :: cs =>
      cases hstarts : startsGap c cs with
      | false =>
        rw [skipGap_of_not_startsGap hstarts]
        exact ⟨[], rfl, .nil⟩
      | true =>
        rcases Bool.or_eq_true_iff.mp hstarts with hblank | hslash
        · have hline : line + newlines [c] = if c = '\n' then line + 1 else line := by
            rw [newlines_cons]
            split <;> simp [newlines]
          rw [skipGap_blank hblank, ← hline]
          exact (ih _ (by simp [← hn]) _ cs rfl).behind fun _ _ => .blank hblank
        obtain ⟨rfl, hsecond⟩ : c = '/' ∧ (cs.head? = some '/' ∨ cs.head? = some '*') := by
          simpa using hslash
        obtain ⟨more, rfl | rfl⟩ : ∃ more, cs = '/' :: more ∨ cs = '*' :: more :=
          ⟨cs.tail, hsecond.imp List.eq_cons_of_mem_head? List.eq_cons_of_mem_head?⟩
        · rw [skipGap]
          by_cases hmem : '\n' ∈ more
          · obtain ⟨body, rest, rfl, hbody⟩ := List.eq_append_cons_of_mem hmem
            have hline : newlines ('/' :: '/' :: (body ++ ['\n'])) = 1 := by
              simp [newlines, List.count_eq_zero.mpr hbody]
            rw [skipGap_lineComment hbody, ← hline]
            have hgap (last : Bool) (gap : List Char) (h : IsGap last gap) :
                IsGap last ('/' :: '/' :: (body ++ ['\n']) ++ gap) := by
              simpa using IsGap.lineComment hbody h
            simpa using (ih _ (by simp [← hn]; omega) _ rest rfl).behind hgap
          · rw [skipGap_lastComment hmem]
            exact ⟨_, (List.append_nil _).symm, .lastComment rfl hmem⟩
        · rw [skipGap]
          rcases closing_split more with hopen | ⟨body, rest, rfl, hbody⟩
          · rw [skipGap_openComment hopen]
            exact ⟨[], more, rfl, .nil, hopen, by simp [newlines]⟩
          · have hline : newlines ('/' :: '*' :: (body ++ ['*', '/'])) = newlines body := by
              simp [newlines]
            rw [skipGap_blockComment hbody, ← hline]
            have hgap (last : Bool) (gap : List Char) (h : IsGap last gap) :
                IsGap last ('/' :: '*' :: (body ++ ['*', '/']) ++ gap) := by
              simpa using IsGap.blockComment hbody h
            simpa using (ih _ (by simp [← hn]; omega) _ rest rfl).behind hgap

/-! ### Reading sources -/

theorem Escapes.splitQuoted {content : List Char} (h : Escapes body content) (rest : List Char) :
    splitQuoted (body ++ '"' :: rest) = some (content, rest) := by
  induction h with
  | nil => rfl
  | escaped hc _ ih => rcases hc with rfl | rfl <;> simp [Lexer.splitQuoted, ih]
  | @backslash c cs content hc _ ih =>
    rw [List.cons_append] at ih
    rw [List.cons_append, List.cons_append, Lexer.splitQuoted.eq_4, ih]
    · rfl
    all_goals simp [hc]
  | @plain c cs content hc _ ih =>
    rw [List.cons_append, Lexer.splitQuoted.eq_def]
    split <;> simp_all

theorem escapes_of_splitQuoted {content : List Char} (h : splitQuoted cs = some (content, rest)) :
    ∃ body, cs = body ++ '"' :: rest ∧ Escapes body content := by
  fun_induction splitQuoted cs generalizing content with
  | case1 cs ih | case2 cs ih =>
    obtain ⟨⟨inner, left⟩, hinner, heq⟩ := Option.map_eq_some_iff.mp h
    cases heq
    obtain ⟨body, rfl, hbody⟩ := ih hinner
    exact ⟨_, rfl, .escaped (by simp) hbody⟩
  | case3 cs =>
    cases h
    exact ⟨[], rfl, .nil⟩
  | case4 c cs h1 h2 h3 ih =>
    obtain ⟨⟨inner, left⟩, hinner, heq⟩ := Option.map_eq_some_iff.mp h
    cases heq
    obtain ⟨body, rfl, hbody⟩ := ih hinner
    refine ⟨c :: body, rfl, ?_⟩
    by_cases hc : c = '\\'
    · subst hc
      cases body with
      | nil => exact (h1 rest rfl rfl).elim
      | cons a body =>
        refine .backslash ⟨?_, ?_⟩ hbody <;> rintro rfl
        · exact h1 _ rfl rfl
        · exact h2 _ rfl rfl
    · exact .plain ⟨h3, hc⟩ hbody
  | case5 => contradiction

/-- What the name of a reference between braces comes to. -/
def Encloses (depth : Nat) (cs : List Char) : Braced → Prop
  | .closed name rest => cs = name ++ '}' :: rest ∧ KeepsOpen depth name ∧
      name.count '}' = depth + name.count '{'
  | .brokenByNewline => ∃ body rest, cs = body ++ '\n' :: rest ∧ KeepsOpen depth body
  | .unterminated => KeepsOpen depth cs

theorem KeepsOpen.nil (depth : Nat) : KeepsOpen depth [] :=
  ⟨by simp, by simp⟩

/-- A character that leaves as many braces open before the others. -/
theorem KeepsOpen.cons {depth inner : Nat} (hline : c ≠ '\n')
    (hc : inner + [c].count '}' = depth + [c].count '{') (h : KeepsOpen inner cs) :
    KeepsOpen depth (c :: cs) := by
  refine ⟨by simp [Ne.symm hline, h.unbroken], fun before hbefore => ?_⟩
  cases before with
  | nil => simp
  | cons a before =>
    obtain ⟨rfl, hprefix⟩ := List.cons_prefix_cons.mp hbefore
    have hinner := h.opened before hprefix
    rw [List.count_cons, List.count_cons] at hc ⊢
    simp only [List.count_nil] at hc
    omega

theorem Encloses.cons {depth inner : Nat} {b : Braced} (hline : c ≠ '\n')
    (hc : inner + [c].count '}' = depth + [c].count '{') (h : Encloses inner cs b) :
    Encloses depth (c :: cs) (b.cons c) := by
  match b, h with
  | .closed name rest, ⟨hcs, hopen, hclosed⟩ =>
    refine ⟨congrArg (c :: ·) hcs, hopen.cons hline hc, ?_⟩
    rw [List.count_cons, List.count_cons] at hc ⊢
    simp only [List.count_nil] at hc
    omega
  | .brokenByNewline, ⟨body, rest, hcs, hopen⟩ =>
    exact ⟨c :: body, rest, congrArg (c :: ·) hcs, hopen.cons hline hc⟩
  | .unterminated, hopen => exact KeepsOpen.cons hline hc hopen

theorem encloses_splitBraced (depth : Nat) (cs : List Char) :
    Encloses depth cs (splitBraced depth cs) := by
  fun_induction splitBraced depth cs with
  | case1 depth cs ih => exact ih.cons (by decide) (by simp)
  | case2 cs => exact ⟨rfl, .nil 0, rfl⟩
  | case3 depth cs hne hc ih => exact ih.cons (by decide) (by simp; omega)
  | case4 depth cs => exact ⟨[], cs, rfl, .nil depth⟩
  | case5 depth c cs h1 h2 h3 ih => exact ih.cons h3 (by simp [h1, h2])
  | case6 depth => exact .nil depth

/-- What reading a lexeme comes to: the text is a source of the symbol and what is left, and the
token stands where its source begins. -/
def Reads (line : Int) (cs : List Char) : Except LexFault Step → Prop
  | .ok s => s.token.line = line ∧
      ∃ source, cs = source ++ s.rest ∧ Spells source s.token.symbol ∧ s.line = line + newlines source
  | .error f => Offends line f cs

theorem isBlank_of_trim (h : Text.trim cs = []) : ∀ c ∈ cs, Text.isBlank c = true := by
  rw [Text.trim, List.reverse_eq_nil_iff, List.dropWhile_eq_nil_iff] at h
  rw [← List.takeWhile_append_dropWhile (p := Text.isBlank) (l := cs), List.forall_mem_append]
  exact ⟨fun c hc => List.mem_takeWhile_imp hc, fun c hc => h c (List.mem_reverse.mpr hc)⟩

theorem reads_quoted (line : Int) (cs : List Char) : Reads line ('"' :: cs) (quoted line cs) := by
  unfold quoted
  split
  · next content rest hsplit =>
    obtain ⟨body, rfl, hbody⟩ := escapes_of_splitQuoted hsplit
    have hlines := newlines_splitQuoted hsplit
    refine ⟨rfl, '"' :: (body ++ ['"']), by simp, .quoted hbody, ?_⟩
    have hquote (cs : List Char) : newlines ('"' :: cs) = newlines cs := by simp [newlines]
    rw [newlines_append, hquote] at hlines
    rw [hquote, newlines_append, hquote, newlines_eq_zero List.not_mem_nil]
    dsimp only
    omega
  · next hsplit =>
    refine .quoted fun body content rest hbody hcs => ?_
    rw [hcs, hbody.splitQuoted] at hsplit
    contradiction

/-- A name goes on as long as its characters allow. -/
theorem takeWhile_cases (p : Char → Bool) (cs : List Char) :
    (cs.takeWhile p = [] ∧ ∀ c ∈ cs.head?, p c = false) ∨ cs.takeWhile p ≠ [] := by
  cases cs with
  | nil => simp
  | cons c cs => cases hc : p c <;> simp [hc]

theorem newlines_name {p : Char → Bool} (hp : p '\n' = false) (hc : c ≠ '\n')
    (cs : List Char) : newlines (c :: cs.takeWhile p) = 0 := by
  refine newlines_eq_zero fun h => ?_
  rcases List.mem_cons.mp h with h | h
  · exact hc h.symm
  · exact absurd (List.mem_takeWhile_imp h) (by simp [hp])

theorem reads_reference (line : Int) (cs : List Char) :
    Reads line ('$' :: cs) (reference line cs) := by
  unfold reference
  split
  · next cs =>
    have henclosed := encloses_splitBraced 0 cs
    split
    · next name rest hsplit =>
      rw [hsplit] at henclosed
      obtain ⟨rfl, hopen, hclosed⟩ := henclosed
      split
      · next htrim => exact .empty (isBlank_of_trim htrim) hopen.unbroken
      · next hne =>
        refine ⟨rfl, '$' :: '{' :: (name ++ ['}']), by simp, .braced hopen (by omega) hne, ?_⟩
        simp [newlines, List.count_eq_zero.mpr hopen.unbroken]
    · next hsplit =>
      rw [hsplit] at henclosed
      obtain ⟨body, rest, rfl, hopen⟩ := henclosed
      exact .broken hopen
    · next hsplit =>
      rw [hsplit] at henclosed
      exact .unterminated henclosed
  · next hbrace =>
    split
    · next hnil =>
      refine .nameless fun c hc => ⟨?_, ?_⟩
      · rcases takeWhile_cases isReferenceChar cs with ⟨-, h⟩ | h
        · exact h c hc
        · exact absurd hnil h
      · rintro rfl
        exact hbrace _ (List.eq_cons_of_mem_head? hc)
    · next hne =>
      refine ⟨rfl, '$' :: cs.takeWhile isReferenceChar, ?_, .reference hne ?_, ?_⟩
      · simp [List.takeWhile_append_dropWhile]
      · exact fun c hc => List.mem_takeWhile_imp hc
      · rw [newlines_name (by decide) (by decide)]
        exact (Int.add_zero _).symm

theorem reads_directive (line : Int) (cs : List Char) :
    Reads line ('#' :: cs) (directive line cs) := by
  unfold directive
  split
  · next hnil =>
    refine .directive fun c hc => ?_
    rcases takeWhile_cases Text.isWord cs with ⟨-, h⟩ | h
    · exact h c hc
    · exact absurd hnil h
  · next hne =>
    refine ⟨rfl, '#' :: cs.takeWhile Text.isWord, ?_, .directive hne ?_, ?_⟩
    · simp [List.takeWhile_append_dropWhile]
    · exact fun c hc => List.mem_takeWhile_imp hc
    · rw [newlines_name (by decide) (by decide)]
      exact (Int.add_zero _).symm

theorem notMem_splitWord (depth : Nat) (cs : List Char) : '\n' ∉ (splitWord depth cs).1 := by
  induction cs generalizing depth with
  | nil => simp [splitWord]
  | cons c cs ih =>
    rw [splitWord_cons]
    split
    · simp
    · next he =>
      have hne : c ≠ '\n' := by
        rintro rfl
        exact he rfl
      simp [Ne.symm hne, ih]

theorem reads_word (hgap : startsGap c cs = false) (hmark : isMark c = false) (line : Int) :
    Reads line (c :: cs) (word line c cs) := by
  have hjoin : c :: cs = c :: (splitWord 0 cs).1 ++ (splitWord 0 cs).2 := by
    rw [List.cons_append, splitWord_join]
  unfold word
  dsimp only
  cases hk : classify (c :: (splitWord 0 cs).1) with
  | ok s =>
    refine ⟨rfl, _, hjoin, .word (startsGap_splitWord hgap) hmark (splitWord_self 0 cs) hk, ?_⟩
    have hc : c ≠ '\n' := by
      rintro rfl
      have hblank : Text.isBlank '\n' = true := by decide
      simp [startsGap, hblank] at hgap
    rw [newlines_eq_zero (by simp [Ne.symm hc, notMem_splitWord])]
    exact (Int.add_zero _).symm
  | error f =>
    unfold classify at hk
    split at hk
    · contradiction
    · next hread =>
      cases hk
      rw [hjoin]
      exact .numeral hread
    · contradiction

/-- A lexeme is read from a source of its symbol. -/
theorem reads_lexeme (hgap : startsGap c cs = false) (line : Int) :
    Reads line (c :: cs) (lexeme line c cs) := by
  cases hmark : isMark c with
  | false =>
    rw [lexeme_word hmark]
    exact reads_word hgap hmark line
  | true =>
    unfold lexeme
    split
    · next hc => exact hc ▸ reads_quoted line cs
    split
    · next hc => exact hc ▸ reads_reference line cs
    split
    · next hc => exact hc ▸ reads_directive line cs
    · next h1 h2 h3 =>
      obtain ⟨s, hs⟩ : ∃ s, single? c = some s := by
        simpa [isMark, h1, h2, h3, Option.isSome_iff_exists] using hmark
      have hc : c ≠ '\n' := by
        rintro rfl
        contradiction
      rw [hs]
      exact ⟨rfl, [c], rfl, .single hs, by simp [newlines, hc]⟩

theorem Spells.ne_nil {source : List Char} {s : Symbol} (h : Spells source s) : source ≠ [] := by
  cases h <;> simp

/-! ### Whole texts -/

/-- A token of a text with the gap before it and its source. -/
structure Piece where
  gap : List Char
  source : List Char
  token : Token

namespace Piece

def chars (p : Piece) : List Char := p.gap ++ p.source

/-- The text that pieces make. -/
def text (ps : List Piece) : List Char := ps.flatMap chars

theorem text_cons (p : Piece) (ps : List Piece) : text (p :: ps) = p.chars ++ text ps := rfl

end Piece

open Piece

/-- The text `cs`, which begins on `line`, is split into `ps` and `ending` as it is lexed. -/
structure Splits (line : Int) (cs : List Char) (lexed : Lexed) (ps : List Piece)
    (ending : List Char) : Prop where
  chars : cs = text ps ++ ending
  tokens : lexed.tokens = ps.map Piece.token
  gaps : ∀ p ∈ ps, IsGap false p.gap
  sources : ∀ p ∈ ps, p.source ≠ [] ∧ Spells p.source p.token.symbol
  lines : ∀ before p after, ps = before ++ p :: after →
    p.token.line = line + newlines (text before ++ p.gap)
  /-- The scanner takes off one piece after the other. -/
  steps : ∀ before p after, ps = before ++ p :: after →
    nextStep (line + newlines (text before)) (text (p :: after) ++ ending) =
      .ok (some ⟨p.token, line + newlines (text (before ++ [p])), text after ++ ending⟩)
  finished : lexed.fault = none → IsGap true ending
  stopped : ∀ f, lexed.fault = some f → ∃ gap rest, ending = gap ++ rest ∧ IsGap false gap ∧
    Offends (line + newlines (text ps ++ gap)) f rest

/-- What a step comes to: a piece of the text, or what the text ends with. -/
theorem nextStep_split (line : Int) (cs : List Char) :
    match nextStep line cs with
    | .ok (some s) => ∃ p : Piece, cs = p.chars ++ s.rest ∧ s.token = p.token ∧ IsGap false p.gap ∧
        Spells p.source p.token.symbol ∧ p.token.line = line + newlines p.gap ∧
        s.line = line + newlines p.chars
    | .ok none => IsGap true cs
    | .error f => ∃ gap rest, cs = gap ++ rest ∧ IsGap false gap ∧
        Offends (line + newlines gap) f rest := by
  have hskips := skips_skipGap line cs
  unfold nextStep
  cases hskip : skipGap .plain line cs with
  | error f =>
    rw [hskip] at hskips
    obtain ⟨gap, body, hcs, hgap, hbody, rfl⟩ := hskips
    exact ⟨gap, _, hcs, hgap, .comment hbody⟩
  | ok found =>
    obtain ⟨line', rest⟩ := found
    rw [hskip] at hskips
    obtain ⟨gap, rfl, hgap⟩ := hskips
    cases rest with
    | nil => simpa using hgap
    | cons c rest =>
      have hlines := skipGap_line hskip
      rw [newlines_append] at hlines
      obtain rfl : line' = line + newlines gap := by omega
      have hreads := reads_lexeme (skipGap_spec hskip).1 (line + newlines gap)
      dsimp only
      cases hlexeme : lexeme (line + newlines gap) c rest with
      | error f =>
        rw [hlexeme] at hreads
        exact ⟨gap, c :: rest, rfl, hgap, hreads⟩
      | ok s =>
        rw [hlexeme] at hreads
        obtain ⟨hline, source, hsource, hspells, hend⟩ := hreads
        refine ⟨⟨gap, source, s.token⟩, ?_, rfl, hgap, hspells, hline, ?_⟩
        · rw [hsource, Piece.chars, List.append_assoc]
        · rw [hend, Piece.chars, newlines_append, Int.add_assoc]

theorem Splits.cons {p : Piece} {ps : List Piece} {ending : List Char} {s : Step} {lexed : Lexed}
    (hstep : nextStep line cs = .ok (some s)) (hcs : cs = p.chars ++ s.rest)
    (htoken : s.token = p.token) (hgap : IsGap false p.gap)
    (hspells : Spells p.source p.token.symbol)
    (hline : p.token.line = line + newlines p.gap) (hend : s.line = line + newlines p.chars)
    (h : Splits s.line s.rest lexed ps ending) :
    Splits line cs ⟨s.token :: lexed.tokens, lexed.fault⟩ (p :: ps) ending := by
  -- lines are counted on from where the first piece ends
  have hlater (more : List Char) :
      line + newlines (p.chars ++ more) = s.line + newlines more := by
    rw [newlines_append, hend, Int.add_assoc]
  refine
    { chars := by rw [hcs, h.chars, text_cons, List.append_assoc]
      tokens := by rw [List.map_cons, htoken, h.tokens]
      gaps := List.forall_mem_cons.mpr ⟨hgap, h.gaps⟩
      sources := List.forall_mem_cons.mpr ⟨⟨hspells.ne_nil, hspells⟩, h.sources⟩
      lines := fun before q after hps => ?_
      steps := fun before q after hps => ?_
      finished := h.finished
      stopped := fun f hf => ?_ }
  · cases before with
    | nil =>
      obtain ⟨rfl, rfl⟩ := List.cons.inj hps
      exact hline
    | cons a before =>
      obtain ⟨rfl, rfl⟩ := List.cons.inj hps
      rw [text_cons, List.append_assoc, hlater]
      exact h.lines before q after rfl
  · cases before with
    | nil =>
      obtain ⟨rfl, rfl⟩ := List.cons.inj hps
      have hline : line + newlines (text []) = line := Int.add_zero line
      have hend' : line + newlines (text ([] ++ [p])) = s.line := by
        rw [List.nil_append, text_cons, hlater]
        exact Int.add_zero s.line
      rw [hline, hend', text_cons, List.append_assoc, ← h.chars, ← hcs, ← htoken]
      exact hstep
    | cons a before =>
      obtain ⟨rfl, rfl⟩ := List.cons.inj hps
      rw [List.cons_append, text_cons p, text_cons p, hlater, hlater]
      exact h.steps before q after rfl
  · obtain ⟨gap, rest, hending, hg, hoffends⟩ := h.stopped f hf
    refine ⟨gap, rest, hending, hg, ?_⟩
    rw [text_cons, List.append_assoc, hlater]
    exact hoffends

theorem Splits.of_nil {fault : Option LexFault} (hfinished : fault = none → IsGap true cs)
    (hstopped : ∀ f, fault = some f → ∃ gap rest, cs = gap ++ rest ∧ IsGap false gap ∧
      Offends (line + newlines gap) f rest) : Splits line cs ⟨[], fault⟩ [] cs where
  chars := rfl
  tokens := rfl
  gaps := List.forall_mem_nil _
  sources := List.forall_mem_nil _
  lines before p after h := by simp at h
  steps before p after h := by simp at h
  finished := hfinished
  stopped := hstopped

/-- Every text splits into gaps and sources of its tokens, and lines are counted by line breaks. -/
theorem lex_split (line : Int) (text : String) :
    ∃ ps ending, Splits line text.toList (lex line text.toList) ps ending := by
  generalize text.toList = cs
  induction hn : cs.length using Nat.strongRecOn generalizing line cs with
  | ind n ih =>
    have hsplit := nextStep_split line cs
    cases hstep : nextStep line cs with
    | error f =>
      rw [hstep] at hsplit
      have hlex : lex line cs = ⟨[], some f⟩ := by rw [lex.eq_def, hstep]
      exact ⟨[], cs, hlex ▸ .of_nil nofun fun f' hf => Option.some.inj hf ▸ hsplit⟩
    | ok found =>
      rw [hstep] at hsplit
      cases found with
      | none =>
        have hlex : lex line cs = ⟨[], none⟩ := by rw [lex.eq_def, hstep]
        exact ⟨[], cs, hlex ▸ .of_nil (fun _ => hsplit) nofun⟩
      | some s =>
        obtain ⟨p, hcs, htoken, hgap, hspells, hline, hend⟩ := hsplit
        obtain ⟨ps, ending, hrest⟩ := ih _ (hn ▸ nextStep_length_lt hstep) s.line s.rest rfl
        rw [lex_of_nextStep hstep]
        exact ⟨p :: ps, ending, hrest.cons hstep hcs htoken hgap hspells hline hend⟩

end CaseDict.Lexer
