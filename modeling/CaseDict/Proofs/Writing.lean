import CaseDict.Proofs.Lexing
import CaseDict.Proofs.Number.Text
import CaseDict.Proofs.Steps
import CaseDict.Writer
import Mathlib.Tactic.IntervalCases
/-! # What is written of entries, in symbols

The text that is written of entries is read as their symbols: a keyword, the symbols of the value
and a terminator for a primitive entry; and a keyword, the symbols of the entries between braces for
a dictionary. -/

/-! ## Symbols read back

The text of a symbol is read as the symbol. For words and numbers the text after it must not go on
with them. -/

namespace CaseDict

open Lexer

namespace Lexer

variable {c : Char} {cs rest : List Char} {line : Int}

/-! ### Numbers -/

theorem mem_of_isNumeral (h : Number.isNumeral c = true) : c ∈ "0123456789+-.e".toList := by
  rw [Number.isNumeral, Bool.or_eq_true, List.contains_iff_mem] at h
  rcases h with h | h
  · obtain ⟨h1, h2⟩ : 48 ≤ c.toNat ∧ c.toNat ≤ 57 := by
      simpa [Char.isDigit, UInt32.le_iff_toNat_le] using h
    rw [← Char.ofNat_toNat c]
    generalize c.toNat = n at h1 h2
    interval_cases n <;> decide
  · have hs : "+-.e".toList ⊆ "0123456789+-.e".toList := by decide
    exact hs h

theorem plain_of_isNumeral (h : Number.isNumeral c = true) : Text.isBlank c = false ∧
    endsWord 0 c cs = false ∧ deeper 0 c = 0 ∧ isMark c = false ∧ c ≠ '/' := by
  have hall : ("0123456789+-.e".toList.all fun c => Text.isBlank c = false ∧ breaksWord c = false ∧
      c ≠ ')' ∧ c ≠ ',' ∧ deeper 0 c = 0 ∧ isMark c = false ∧ c ≠ '/') = true := by decide
  obtain ⟨hb, hw, h1, h2, hd, hm, hs⟩ :=
    of_decide_eq_true (List.all_eq_true.mp hall c (mem_of_isNumeral h))
  exact ⟨hb, by simp [endsWord, hw, h1, h2, hs], hd, hm, hs⟩

theorem splitWord_isNumeral (h : Number.IsNumeral cs) (hr : Stops 0 rest) :
    splitWord 0 (cs ++ rest) = (cs, rest) := by
  induction cs with
  | nil => exact splitWord_of_stops hr
  | cons c cs ih =>
    obtain ⟨-, he, hd, -, -⟩ := @plain_of_isNumeral c (cs ++ rest) (h c (by simp))
    rw [List.cons_append, splitWord_cons, he, hd, ih h.tail]
    rfl

theorem nextStep_number {n : Number} (hw : n.writable = true)
    (hf : ∀ x, n = .float x → x.isFinite = true) (hr : Stops 0 rest) :
    nextStep line (n.text.toList ++ rest) = .ok (some ⟨⟨.number n, line⟩, line, rest⟩) := by
  have hread := Number.read_text hw hf
  have hnum := Number.isNumeral_text hf
  generalize n.text.toList = cs at hread hnum
  cases cs with
  | nil => simp [Number.read, Number.splitSign] at hread
  | cons c cs =>
    obtain ⟨hb, -, -, hm, hs⟩ := @plain_of_isNumeral c cs (hnum c (by simp))
    refine nextStep_word ?_ hm (splitWord_isNumeral hnum.tail hr) ?_
    · simp [startsGap, hb, hs]
    · rw [classify, hread]

/-! ### Marks -/

theorem nextStep_single {s : Symbol} (hs : single? c = some s) :
    nextStep line (c :: rest) = .ok (some ⟨⟨s, line⟩, line, rest⟩) := by
  have hc : c ∈ ";()\x7b\x7d[],".toList := by
    unfold single? at hs
    split at hs <;> first | decide | contradiction
  have hall : (";()\x7b\x7d[],".toList.all fun c => c ≠ '"' ∧ c ≠ '$' ∧ c ≠ '#' ∧
      Text.isBlank c = false ∧ c ≠ '/') = true := by decide
  obtain ⟨h1, h2, h3, h4, h5⟩ := of_decide_eq_true (List.all_eq_true.mp hall c hc)
  rw [nextStep_of_not_startsGap (by simp [startsGap, h4, h5]), lexeme, if_neg h1, if_neg h2,
    if_neg h3, hs]
  rfl

end Lexer

namespace Symbol

/-- The symbol is read back as itself: words are words to the lexer, with their brackets closed, and
numbers are finite and not too long. -/
def Writable : Symbol → Prop
  | .word w => IsWord w ∧ IsBalanced w
  | .number n => n.writable = true ∧ ∀ x, n = .float x → x.isFinite = true
  | .quoted _ | .opener _ | .closer _ | .comma | .terminator => True
  | .reference _ | .directive _ => False

theorem nextStep_text {s : Symbol} (hs : s.Writable) {rest : List Char}
    (hr : s.isOpener ∨ Stops 0 rest) (line : Int) :
    ∃ line', nextStep line (s.text.toList ++ rest) = .ok (some ⟨⟨s, line⟩, line', rest⟩) := by
  cases s with
  | word w =>
    have hr : Stops 0 rest := hr.resolve_left (by simp [isOpener])
    refine ⟨line, nextStep_isWord hs.1 fun a ha => (hr a ha).imp_right fun ⟨h, _⟩ => ⟨h, hs.2⟩⟩
  | quoted s => exact ⟨_, nextStep_quoted s rest⟩
  | number n =>
    have hr : Stops 0 rest := hr.resolve_left (by simp [isOpener])
    exact ⟨line, nextStep_number hs.1 hs.2 hr⟩
  | opener b => exact ⟨line, by cases b <;> exact nextStep_single rfl⟩
  | closer b => exact ⟨line, by cases b <;> exact nextStep_single rfl⟩
  | comma => exact ⟨line, nextStep_single rfl⟩
  | terminator => exact ⟨line, nextStep_single rfl⟩
  | reference => contradiction
  | directive => contradiction

end Symbol

end CaseDict

namespace CaseDict

open Lexer

namespace Lexer

/-- The text is read to its end as these symbols, wherever it begins. -/
def Lexes (cs : List Char) (ss : List Symbol) : Prop :=
  ∀ line, ∃ ts, lex line cs = ⟨ts, none⟩ ∧ ts.map Token.symbol = ss

variable {c : Char} {cs rest : List Char} {s : Symbol} {ss : List Symbol}

theorem Lexes.nil : Lexes [] [] := fun _ => ⟨[], lex_nil, rfl⟩

theorem Lexes.step (hs : ∀ line, ∃ line', nextStep line cs = .ok (some ⟨⟨s, line⟩, line', rest⟩))
    (h : Lexes rest ss) : Lexes cs (s :: ss) := by
  intro line
  obtain ⟨line', hn⟩ := hs line
  obtain ⟨ts, ht, hss⟩ := h line'
  refine ⟨⟨s, line⟩ :: ts, ?_, by rw [List.map_cons, hss]⟩
  rw [lex_of_nextStep hn, ht]

theorem lex_congr {line line' : Int} {cs' : List Char} (h : nextStep line cs = nextStep line' cs') :
    lex line cs = lex line' cs' := by
  rw [lex.eq_def, lex.eq_def line' cs', h]

theorem Lexes.blank (hc : Text.isBlank c = true) (h : Lexes rest ss) : Lexes (c :: rest) ss := by
  intro line
  obtain ⟨ts, ht, hss⟩ := h (if c = '\n' then line + 1 else line)
  refine ⟨ts, ?_, hss⟩
  rw [← ht]
  exact lex_congr (by rw [nextStep, nextStep, skipGap_blank hc])

theorem Lexes.spaces (h : Lexes rest ss) (n : Nat) : Lexes (List.replicate n ' ' ++ rest) ss := by
  induction n with
  | zero => exact h
  | succ n ih => exact ih.blank rfl

end Lexer

namespace Writer

/-! ### Tokens -/

variable {rest : List Char} {ss : List Symbol}

theorem stops_of_breaksWord {c : Char} {cs : List Char} (hc : breaksWord c = true) (depth : Nat) :
    Stops depth (c :: cs) := fun a ha => .inl (by rwa [← Option.some.inj ha])

theorem stops_closer {s : Symbol} (hs : tightBefore s = true) (cs : List Char) :
    Stops 0 (s.text.toList ++ cs) := by
  unfold tightBefore at hs
  split at hs
  · exact fun a ha => .inr ⟨.inl (Option.some.inj ha).symm, rfl⟩
  · exact stops_of_breaksWord rfl 0
  · contradiction

theorem isOpener_of_tightAfter {s : Symbol} (hs : tightAfter s = true) : s.isOpener = true := by
  unfold tightAfter at hs
  split at hs
  · rfl
  · rfl
  · contradiction

theorem toList_tokensAfter (s : Symbol) (t : Token) (ts : List Token) :
    (tokensAfter s (t :: ts)).toList =
      (if tightAfter s || tightBefore t.symbol then [] else [' ']) ++
        (t.symbol.text.toList ++ (tokensAfter t.symbol ts).toList) := by
  rw [tokensAfter, String.toList_append, String.toList_append, List.append_assoc]
  split <;> rfl

theorem stops_tokensAfter (s : Symbol) (ts : List Token) (hr : Stops 0 rest) :
    s.isOpener ∨ Stops 0 ((tokensAfter s ts).toList ++ rest) := by
  cases ts with
  | nil => exact .inr hr
  | cons t ts =>
    rw [toList_tokensAfter]
    split
    · next h =>
      rcases Bool.or_eq_true_iff.mp h with h | h
      · exact .inl (isOpener_of_tightAfter h)
      · rw [List.nil_append, List.append_assoc]
        exact .inr (stops_closer h _)
    · exact .inr (stops_of_breaksWord rfl 0)

theorem lexes_tokensAfter {ts : List Token} (ht : ∀ t ∈ ts, t.symbol.Writable) (hr : Stops 0 rest)
    (h : Lexes rest ss) (s : Symbol) :
    Lexes ((tokensAfter s ts).toList ++ rest) (ts.map Token.symbol ++ ss) := by
  induction ts generalizing s with
  | nil => exact h
  | cons t ts ih =>
    have hts := ih (fun x hx => ht x (List.mem_cons_of_mem _ hx)) t.symbol
    have hstep := hts.step fun line =>
      Symbol.nextStep_text (ht t (by simp)) (stops_tokensAfter t.symbol ts hr) line
    rw [toList_tokensAfter]
    split
    · simpa using hstep
    · simpa using hstep.blank (c := ' ') rfl

theorem toList_tokens (t : Token) (ts : List Token) :
    (tokens (t :: ts)).toList = t.symbol.text.toList ++ (tokensAfter t.symbol ts).toList := by
  rw [tokens, String.toList_append]
  rfl

theorem lexes_tokens {ts : List Token} (ht : ∀ t ∈ ts, t.symbol.Writable) (hr : Stops 0 rest)
    (h : Lexes rest ss) : Lexes ((tokens ts).toList ++ rest) (ts.map Token.symbol ++ ss) := by
  cases ts with
  | nil => exact h
  | cons t ts =>
    have hts := lexes_tokensAfter (fun x hx => ht x (List.mem_cons_of_mem _ hx)) hr h t.symbol
    rw [toList_tokens, List.append_assoc]
    exact hts.step fun line =>
      Symbol.nextStep_text (ht t (by simp)) (stops_tokensAfter t.symbol ts hr) line

theorem text_ne_nil {s : Symbol} (hs : s.Writable) : s.text.toList ≠ [] := by
  obtain ⟨line', hn⟩ : ∃ line', nextStep 1 (s.text.toList ++ []) = .ok (some ⟨⟨s, 1⟩, line', []⟩) :=
    Symbol.nextStep_text hs (.inr (by simp [Stops])) 1
  intro h
  rw [h] at hn
  simp [nextStep, skipGap] at hn

theorem isEmpty_tokens {ts : List Token} (ht : ∀ t ∈ ts, t.symbol.Writable)
    (h : (tokens ts).isEmpty = true) : ts = [] := by
  cases ts with
  | nil => rfl
  | cons t ts =>
    have hnil : (tokens (t :: ts)).toList = [] := by simpa using h
    rw [toList_tokens] at hnil
    exact absurd (List.append_eq_nil_iff.mp hnil).1 (text_ne_nil (ht t (by simp)))

end Writer

/-! ### Entries -/

/-- The keyword is read back: a plain one as a word, a pattern as a regular expression. -/
def Heading.Writable (h : Heading) : Prop :=
  if h.isPattern then Pattern.fault? h.keyword = none else IsWord h.keyword

/-- The tokens of a value are read back: each is, and their brackets nest and do not begin a
dictionary. -/
structure Token.AllWritable (ts : List Token) : Prop where
  symbols : ∀ t ∈ ts, t.symbol.Writable
  nested : Grammar.Nested false ts
  unbraced : ∀ t ∈ ts.head?, t.symbol ≠ .opener .brace

mutual

/-- The entry is read back: all keywords and all tokens in it are. -/
def Entry.Writable : Entry → Prop
  | .primitive h ts => h.Writable ∧ Token.AllWritable ts
  | .dictionary h es => h.Writable ∧ Entry.AllWritable es

/-- The entries are read back. -/
def Entry.AllWritable : List Entry → Prop
  | [] => True
  | e :: es => e.Writable ∧ Entry.AllWritable es

end

mutual

/-- The symbols that an entry is written with. -/
def Entry.symbols : Entry → List Symbol
  | .primitive h ts => keywordSymbol h.keyword h.isPattern :: ts.map Token.symbol ++ [.terminator]
  | .dictionary h es => keywordSymbol h.keyword h.isPattern :: .opener .brace ::
      Entry.symbolsOf es ++ [.closer .brace]

def Entry.symbolsOf : List Entry → List Symbol
  | [] => []
  | e :: es => e.symbols ++ Entry.symbolsOf es

end

theorem isMacro_keywordSymbol (k : String) (p : Bool) : (keywordSymbol k p).isMacro = false := by
  cases p <;> rfl

mutual

/-- The symbols of entries that are read back stand for themselves. -/
theorem Entry.isMacro_symbols : ∀ {e : Entry}, e.Writable → ∀ s ∈ e.symbols, s.isMacro = false
  | .primitive h ts, he => by
    have hts : ∀ s ∈ ts.map Token.symbol, s.isMacro = false :=
      List.forall_mem_map.mpr he.2.nested.isMacro
    refine List.forall_mem_append.mpr ⟨List.forall_mem_cons.mpr ⟨?_, hts⟩, by simp; rfl⟩
    exact isMacro_keywordSymbol ..
  | .dictionary h es, he => by
    refine List.forall_mem_append.mpr ⟨List.forall_mem_cons.mpr ⟨?_, ?_⟩, by simp; rfl⟩
    · exact isMacro_keywordSymbol ..
    · exact List.forall_mem_cons.mpr ⟨rfl, Entry.isMacro_symbolsOf he.2⟩

theorem Entry.isMacro_symbolsOf : ∀ {es : List Entry}, Entry.AllWritable es →
    ∀ s ∈ Entry.symbolsOf es, s.isMacro = false
  | [], _ => List.forall_mem_nil _
  | _ :: _, he =>
    List.forall_mem_append.mpr ⟨Entry.isMacro_symbols he.1, Entry.isMacro_symbolsOf he.2⟩

end

namespace Writer

variable {rest : List Char} {ss : List Symbol}

theorem lexes_keyword {h : Heading} (hh : h.Writable) (hr : ∀ a ∈ rest.head?, breaksWord a = true)
    (hl : Lexes rest ss) : Lexes ((keyword h).toList ++ rest)
      (keywordSymbol h.keyword h.isPattern :: ss) := by
  refine hl.step fun line => ?_
  unfold Heading.Writable at hh
  unfold keyword keywordSymbol
  split
  · exact ⟨_, nextStep_quoted h.keyword rest⟩
  · next hp =>
    rw [if_neg hp] at hh
    exact ⟨line, nextStep_isWord hh fun a ha => .inl (hr a ha)⟩

theorem lexes_margin (h : Lexes rest ss) (level : Int) :
    Lexes ((margin level).toList ++ rest) ss := by
  rw [margin, String.toList_ofList]
  exact h.spaces _

theorem lexes_primitive {h : Heading} {ts : List Token} (hh : h.Writable)
    (ht : ∀ t ∈ ts, t.symbol.Writable) (hl : Lexes rest ss) (level : Int) :
    Lexes ((primitive level h ts).toList ++ rest)
      (keywordSymbol h.keyword h.isPattern :: (ts.map Token.symbol ++ .terminator :: ss)) := by
  have hend : Lexes (";\n".toList ++ rest) (.terminator :: ss) :=
    (hl.blank (c := '\n') rfl).step fun line => ⟨line, nextStep_single rfl⟩
  unfold primitive
  dsimp only
  split
  · next he =>
    obtain rfl := isEmpty_tokens ht he
    simp only [String.toList_append, List.append_assoc]
    exact lexes_margin (lexes_keyword hh (by simp; decide) hend) level
  · have hbody := lexes_tokens ht (stops_of_breaksWord rfl 0) hend
    have hfill := (hbody.blank (c := ' ') rfl).spaces (keywordWidth - (keyword h).length)
    simp only [String.toList_append, List.append_assoc, fill, String.toList_ofList]
    refine lexes_margin (lexes_keyword hh ?_ hfill) level
    generalize keywordWidth - (keyword h).length = n
    cases n <;> simp [List.replicate_succ] <;> decide

mutual

theorem lexes_entry : ∀ {e : Entry}, e.Writable → ∀ {rest : List Char} {ss : List Symbol},
    Lexes rest ss → ∀ level, Lexes ((entry level e).toList ++ rest) (e.symbols ++ ss)
  | .primitive h ts, he, rest, ss, hl, level => by
    have hp := lexes_primitive he.1 he.2.symbols hl level
    simpa [entry, Entry.symbols] using hp
  | .dictionary h es, he, rest, ss, hl, level => by
    have hclose : Lexes ("\x7d\n".toList ++ rest) (.closer .brace :: ss) :=
      (hl.blank (c := '\n') rfl).step fun line => ⟨line, nextStep_single rfl⟩
    have hbody := lexes_entries he.2 (lexes_margin hclose level) (level + 1)
    have hopen : Lexes ("\x7b\n".toList ++ ((entries (level + 1) es).toList ++
        ((margin level).toList ++ ("\x7d\n".toList ++ rest))))
        (.opener .brace :: (Entry.symbolsOf es ++ .closer .brace :: ss)) :=
      (hbody.blank (c := '\n') rfl).step fun line => ⟨line, nextStep_single rfl⟩
    have hline := (lexes_margin hopen level).blank (c := '\n') rfl
    have hkey := lexes_margin (lexes_keyword he.1 (by simp; decide) hline) level
    simp only [entry, Entry.symbols, String.toList_append, List.append_assoc, List.cons_append,
      List.nil_append]
    exact hkey

theorem lexes_entries : ∀ {es : List Entry}, Entry.AllWritable es →
    ∀ {rest : List Char} {ss : List Symbol}, Lexes rest ss → ∀ level,
      Lexes ((entries level es).toList ++ rest) (Entry.symbolsOf es ++ ss)
  | [], _, rest, ss, hl, level => hl
  | e :: es, he, rest, ss, hl, level => by
    have h := lexes_entry he.1 (lexes_entries he.2 hl level) level
    simpa [entries, Entry.symbolsOf] using h

end

end Writer

end CaseDict
