import CaseDict.Proofs.Acceptance
import CaseDict.Proofs.Writing
/-! # Reading what was written

What is written of a dictionary is read as a dictionary with the same entries, on other lines. -/

namespace CaseDict

/-! ### Entries without their lines -/

def Token.unlined (t : Token) : Token := ⟨t.symbol, -1⟩

def Heading.unlined (h : Heading) : Heading := ⟨h.keyword, h.isPattern, -1, -1⟩

namespace Entry

mutual

/-- The entry with the lines taken off. -/
def unlined : Entry → Entry
  | .primitive h ts => .primitive h.unlined (ts.map Token.unlined)
  | .dictionary h es => .dictionary h.unlined (unlinedAll es)

def unlinedAll : List Entry → List Entry
  | [] => []
  | e :: es => e.unlined :: unlinedAll es

end

mutual

/-- How many dictionaries are around the innermost entries, the entry itself counted. -/
def depth : Entry → Nat
  | .primitive .. => 0
  | .dictionary _ es => depthOf es + 1

def depthOf : List Entry → Nat
  | [] => 0
  | e :: es => max e.depth (depthOf es)

end

end Entry

namespace Grammar

variable {limit : Int}

theorem map_unlined {ts us : List Token} (h : ts.map Token.symbol = us.map Token.symbol) :
    ts.map Token.unlined = us.map Token.unlined := by
  have hu (l : List Token) : l.map Token.unlined = (l.map Token.symbol).map (⟨·, -1⟩) := by
    rw [List.map_map]
    rfl
  rw [hu, hu, h]

theorem heading?_of_symbol {h : Heading} (hh : h.Writable) {t : Token}
    (ht : t.symbol = keywordSymbol h.keyword h.isPattern) (line : Int) :
    heading? t line = some ⟨h.keyword, h.isPattern, t.line, line⟩ := by
  unfold Heading.Writable at hh
  unfold heading? keywordSymbol at *
  cases hp : h.isPattern with
  | true =>
    rw [hp, if_pos rfl] at ht hh
    rw [ht]
    simp [hh]
  | false =>
    rw [hp] at ht
    rw [ht]
    rfl

/-- Nesting is a property of the symbols. -/
theorem Nested.congr {inside : Bool} {ts us : List Token} (h : Nested inside ts)
    (hu : us.map Token.symbol = ts.map Token.symbol) : Nested inside us := by
  induction h generalizing us with
  | nil =>
    obtain rfl := List.map_eq_nil_iff.mp hu
    exact .nil
  | atom ht hts ih =>
    obtain ⟨u, us, rfl, hu1, hu2⟩ := List.map_eq_cons_iff.mp hu
    exact .atom (hu1 ▸ ht) (ih hu2)
  | group hus hts ih ih' =>
    simp only [List.cons_append, List.map_cons, List.map_append] at hu
    obtain ⟨⟨u, line⟩, us, rfl, rfl, hus⟩ := List.map_eq_cons_iff.mp hu
    obtain ⟨us, vs, rfl, hus', hvs⟩ := List.map_eq_append_iff.mp hus
    obtain ⟨⟨v, line'⟩, vs, rfl, rfl, hvs'⟩ := List.map_eq_cons_iff.mp hvs
    exact .group (ih hus') (ih' hvs')

theorem IsValue.congr {ts us : List Token} (h : IsValue ts)
    (hu : us.map Token.symbol = ts.map Token.symbol) : IsValue us where
  nonempty := by
    rintro rfl
    exact h.nonempty (List.map_eq_nil_iff.mp hu.symm)
  unbraced u hmem := by
    cases us with
    | nil => contradiction
    | cons v us =>
      obtain ⟨t, ts, rfl, ht, -⟩ := List.map_eq_cons_iff.mp hu.symm
      cases hmem
      exact ht ▸ h.unbraced t rfl
  nested := h.nested.congr hu

theorem IsValue.of_allWritable {ts us : List Token} (h : Token.AllWritable ts) (hne : ts ≠ [])
    (hu : us.map Token.symbol = ts.map Token.symbol) : IsValue us :=
  IsValue.congr ⟨hne, h.unbraced, h.nested⟩ hu

mutual

/-- The symbols of an entry are a statement that stands for the entry. -/
theorem statement_of_symbols : ∀ {e : Entry}, e.Writable → ∀ {n : Nat},
    ((n + e.depth : Nat) : Int) ≤ limit → ∀ {ts : List Token}, ts.map Token.symbol = e.symbols →
      ∃ e', Statement limit n ts e' ∧ e'.unlined = e.unlined
  | .primitive h vs, he, n, hn, ts, hts => by
    simp only [Entry.symbols, List.cons_append] at hts
    obtain ⟨k, ts, rfl, hk, hts⟩ := List.map_eq_cons_iff.mp hts
    obtain ⟨us, ts, rfl, hus, hts⟩ := List.map_eq_append_iff.mp hts
    obtain ⟨⟨t, line⟩, ts, rfl, rfl, hnil⟩ := List.map_eq_cons_iff.mp hts
    obtain rfl := List.map_eq_nil_iff.mp hnil
    have hhead := heading?_of_symbol he.1 hk line
    refine ⟨.primitive ⟨h.keyword, h.isPattern, k.line, line⟩ us, ?_, ?_⟩
    · by_cases hvs : vs = []
      · subst hvs
        obtain rfl := List.map_eq_nil_iff.mp hus
        exact .bare hhead
      · exact .value hhead (.of_allWritable he.2 hvs hus)
    · simp only [Entry.unlined, map_unlined hus]
      rfl
  | .dictionary h es, he, n, hn, ts, hts => by
    simp only [Entry.symbols, List.cons_append] at hts
    obtain ⟨k, ts, rfl, hk, hts⟩ := List.map_eq_cons_iff.mp hts
    obtain ⟨⟨o, line⟩, ts, rfl, rfl, hts'⟩ := List.map_eq_cons_iff.mp hts
    obtain ⟨us, ts, rfl, hus, hts'⟩ := List.map_eq_append_iff.mp hts'
    obtain ⟨⟨c, line'⟩, ts, rfl, rfl, hnil⟩ := List.map_eq_cons_iff.mp hts'
    obtain rfl := List.map_eq_nil_iff.mp hnil
    simp only [Entry.depth] at hn
    obtain ⟨es', hbody, hes⟩ := body_of_symbols (n := n + 1) he.2 (by omega) hus
    have hhead := heading?_of_symbol he.1 hk line'
    refine ⟨.dictionary ⟨h.keyword, h.isPattern, k.line, line'⟩ es', ?_, ?_⟩
    · exact .dictionary hhead (by omega) hbody
    · simp only [Entry.unlined, hes]
      rfl

/-- The symbols of entries are a body that stands for the entries. -/
theorem body_of_symbols : ∀ {es : List Entry}, Entry.AllWritable es → ∀ {n : Nat},
    ((n + Entry.depthOf es : Nat) : Int) ≤ limit → ∀ {ts : List Token},
      ts.map Token.symbol = Entry.symbolsOf es →
        ∃ es', Body limit n ts es' ∧ Entry.unlinedAll es' = Entry.unlinedAll es
  | [], _, n, _, ts, hts => by
    obtain rfl := List.map_eq_nil_iff.mp hts
    exact ⟨[], .nil, rfl⟩
  | e :: es, he, n, hn, ts, hts => by
    simp only [Entry.symbolsOf] at hts
    simp only [Entry.depthOf] at hn
    obtain ⟨us, vs, rfl, hus, hvs⟩ := List.map_eq_append_iff.mp hts
    obtain ⟨e', hs, he'⟩ := statement_of_symbols (n := n) he.1 (by omega) hus
    obtain ⟨es', hb, hes'⟩ := body_of_symbols (n := n) he.2 (by omega) hvs
    exact ⟨e' :: es', .cons hs hb, by simp only [Entry.unlinedAll, he', hes']⟩

end

end Grammar

namespace Writer

/-- What is written of entries is lexed as their symbols. -/
theorem lex_write {es : List Entry} (hes : Entry.AllWritable es) (h : Heading) :
    ∃ ts, Lexer.lex 1 (write (.dictionary h es) false).toList = ⟨ts, none⟩ ∧
      ts.map Token.symbol = Entry.symbolsOf es := by
  have hlex := lexes_entries hes Lexer.Lexes.nil 0
  rw [List.append_nil, List.append_nil] at hlex
  exact hlex 1

theorem ofText_eq_ofTokens {text : String} {ts : List Token}
    (h : Lexer.lex 1 text.toList = ⟨ts, none⟩) (name : String) :
    Input.ofText name text = .ofTokens name ts := by
  rw [Input.ofText, h]
  rfl

/-- **What is written of entries is read as the entries**, but for the lines they stand on. -/
theorem read_write (setup : Setup) (hmode : setup.settings.mode = .retain) (name : String)
    (h : Heading) {es : List Entry} (hes : Entry.AllWritable es)
    (hdepth : (Entry.depthOf es : Int) ≤ setup.settings.maxNesting) :
    ∃ line es', (Reader.ofText setup (write (.dictionary h es) false) name).1 =
        .ok (.dictionary ⟨name, false, 1, line⟩ es') ∧
      Entry.unlinedAll es' = Entry.unlinedAll es := by
  obtain ⟨ts, hts, hss⟩ := lex_write hes h
  obtain ⟨es', hbody, hes'⟩ := Grammar.body_of_symbols hes (n := 0) (by simpa using hdepth) hss
  refine ⟨lineAfter 0 ts, es', ?_, hes'⟩
  rw [Reader.ofText, ofText_eq_ofTokens hts]
  exact Grammar.Document.read hmode name (.closed hbody)

/-- An entry with a shadowed duplicate, in a dictionary. -/
def shadowed : List Entry :=
  [.dictionary ⟨"d", false, -1, -1⟩
    [.primitive ⟨"a", false, -1, -1⟩ [⟨.word "b", -1⟩, ⟨.number (.int 1), -1⟩],
      .primitive ⟨"a", false, -1, -1⟩ []]]

theorem read_shadowed : Entry.AllWritable shadowed ∧
    ∃ line es', (Reader.ofText bareSetup (write (.dictionary ⟨"t", false, -1, -1⟩ shadowed) false)
        "t").1 = .ok (.dictionary ⟨"t", false, 1, line⟩ es') ∧
      Entry.unlinedAll es' = Entry.unlinedAll shadowed := by
  have hword (c : Char) (h : c ∈ ['a', 'b', 'd']) : Lexer.IsWord (String.ofList [c]) := by
    rw [Lexer.isWord_iff]
    refine ⟨c, [], String.toList_ofList, ?_⟩
    simp only [List.mem_cons, List.not_mem_nil, or_false] at h
    rcases h with rfl | rfl | rfl <;> decide
  have ha := hword 'a' (by decide)
  have hb : Symbol.Writable (.word "b") := ⟨hword 'b' (by decide), rfl⟩
  have hone : Symbol.Writable (.number (.int 1)) := ⟨by decide, by simp⟩
  have hvalue : Token.AllWritable [⟨.word "b", -1⟩, ⟨.number (.int 1), -1⟩] :=
    ⟨by simp [hb, hone], .atom rfl (.atom rfl .nil), by simp⟩
  have hw : Entry.AllWritable shadowed :=
    ⟨⟨hword 'd' (by decide), ⟨ha, hvalue⟩, ⟨ha, by simp, .nil, by simp⟩, trivial⟩, trivial⟩
  exact ⟨hw, read_write bareSetup rfl "t" _ hw (by decide)⟩

end Writer

end CaseDict
