import CaseDict.Proofs.ExpansionDepth
import CaseDict.Proofs.Rereading
/-! # Values of the environment

The text of a variable is lexed by itself, and its tokens come into a value without a look at their
brackets: only a terminator is refused. So a value that is taken from the environment is read back
after it was written if its brackets nest and do not begin a dictionary, and not otherwise
(`Reader.reread_iff`). A lone `)` is stored and written, but not read (`Reader.not_reread`). -/

namespace CaseDict

open Entry Expansion Grammar Lexer Statement

/-- Words and numbers are spelt as the lexer spells them, and nothing is left to be expanded. -/
def Vocabulary.spelt : Vocabulary where
  plain t := t.symbol.Legible
  fit t := t.symbol.Legible ∧ t.symbol.isMacro = false
  stands ts := ∀ t ∈ ts, t.symbol.Legible ∧ t.symbol.isMacro = false
  fails _ := True
  fails_of _ := trivial
  fit_of_plain := .intro
  fit_of_stands h := h
  stands_of_value h _ := h
  stands_number h := List.forall_mem_singleton.mpr ⟨h, rfl⟩
  stands_switch h := List.forall_mem_singleton.mpr ⟨isWord_switch h, rfl⟩
  stands_negate h := List.forall_mem_singleton.mpr ⟨Number.writable_negate h.1, rfl⟩

/-! ### Values of a document -/

namespace Grammar

variable {limit : Int} {h : Heading} {vs : List Token}

theorem Statement.isValue {n : Nat} {ts : List Token} (hs : Statement limit n ts (.primitive h vs)) :
    vs = [] ∨ IsValue vs := by
  cases hs with
  | bare => exact .inl rfl
  | value _ hvs => exact .inr hvs

theorem Body.isValue : ∀ {n : Nat} {ts : List Token} {es : List Entry}, Body limit n ts es →
    .primitive h vs ∈ es → vs = [] ∨ IsValue vs
  | _, _, _, .nil, hmem => absurd hmem List.not_mem_nil
  | _, _, _, .spare hts, hmem => hts.isValue hmem
  | _, _, _, .cons hss hts, hmem => by
    rcases List.mem_cons.mp hmem with rfl | hmem
    · exact hss.isValue
    · exact hts.isValue hmem

/-- What a document stands for has values that can be written. -/
theorem Document.isValue {n : Nat} {line : Int} {ts : List Token} {es : List Entry}
    (hd : Document limit n line ts es) (hmem : .primitive h vs ∈ es) : vs = [] ∨ IsValue vs := by
  cases hd with
  | closed hts => exact hts.isValue hmem
  | bare hts =>
    rcases List.mem_append.mp hmem with hmem | hmem
    · exact hts.isValue hmem
    · cases List.mem_singleton.mp hmem
      exact .inl rfl
  | value hts _ hvs =>
    rcases List.mem_append.mp hmem with hmem | hmem
    · exact hts.isValue hmem
    · cases List.mem_singleton.mp hmem
      exact .inr hvs

/-- A keyword, the symbols of a value and a terminator are a statement. -/
theorem statement_of_value {n : Nat} {k : Token} {ts : List Token} {line : Int}
    (hk : heading? k line = some h) (hvs : vs = [] ∨ IsValue vs) (hts : ts.map Token.symbol = vs.map Token.symbol) :
    Statement limit n (k :: ts ++ [⟨.terminator, line⟩]) (.primitive h ts) := by
  rcases hvs with rfl | hvs
  · obtain rfl := List.map_eq_nil_iff.mp hts
    exact .bare hk
  · exact .value hk (hvs.congr hts)

end Grammar

namespace Reader

variable {setup setup' : Setup} {e : Entry} {h : Heading} {ts : List Token}

theorem legible_environmentTokens {name text : String} {line : Int} {ts : List Token}
    (h : Surroundings.environmentTokens name text line = .ok ts) :
    ∀ t ∈ ts, t.symbol.Legible := by
  obtain ⟨us, hlex, rfl⟩ := Surroundings.environmentTokens_eq_ok h
  have hlegible := legible_lex 1 text.toList
  rw [hlex] at hlegible
  exact List.forall_mem_map.mpr hlegible

/-- What is made of a legible input is legible and literal, whatever the environment and the files
bring. -/
theorem courses_spelt (setup : Setup) : SharedCourses .same .spelt Eq setup setup := by
  have hwhole : Vocabulary.spelt.Whole := fun _ h => h
  refine .of_mode Link.stops_never trivial ?_ (.inl rfl) (fun _ _ h => h) ?_ rfl
  · refine .upTo rfl (.inl rfl) fun _ _ _ _ _ _ => ⟨hwhole, fun p text _ => ?_⟩
    exact ⟨legible_lex 1 text.toList, fun _ _ => trivial⟩
  · intro frames hf
    refine .of_carries (fun _ _ => trivial) hf (fun ts hts t ht => (hts t ht).2) ?_
    intro name text line ts _ hts
    have hlegible := legible_environmentTokens hts
    split
    · exact ⟨hlegible, hwhole⟩
    · next hm => exact fun t ht => ⟨hlegible t ht, by simp at hm; exact hm t ht⟩

theorem spelt_of_read {i : Input} (hi : ∀ t ∈ i.tokens, t.symbol.Legible)
    (hread : (read setup i).1 = .ok e) :
    ∀ v ∈ e.values, ∀ t ∈ v, t.symbol.Legible ∧ t.symbol.isMacro = false := by
  have hends := read_ends (courses_spelt setup) (.inl rfl) ⟨hi, fun _ _ => trivial⟩ rfl rfl
  generalize read setup i = p at hread hends
  cases hends with
  | ok he =>
    cases hread
    exact he.2
  | error => contradiction
  | parted => contradiction

/-- What is read of a statement whose value is a reference. -/
theorem entry_of_reference {name v a : String} {l l' l'' : Int}
    (hread : (read setup
      (.ofTokens name [⟨.word v, l⟩, ⟨.reference a, l'⟩, ⟨.terminator, l''⟩])).1 = .ok e) :
    ∃ head us, e = .dictionary head [.primitive ⟨v, false, l, l''⟩ us] := by
  have hbegun : begun setup name v l ⟨.reference a, l'⟩ [⟨.terminator, l''⟩] = _ :=
    outcome_expandToken_reference
  generalize exec (Expansion.reference _ _ _ _) _ = q at hbegun
  obtain ⟨f | us, log⟩ := q
  · rw [read_failed rfl hbegun] at hread
    contradiction
  · rw [read_begun rfl hbegun] at hread
    exact ⟨_, us, (Except.ok.inj hread).symm⟩

/-- The value is read as it is, in symbols, of what is written of the entry. -/
def Rereads (setup : Setup) (name : String) (h : Heading) (ts : List Token) : Prop :=
  ∃ e h' ts', (ofText setup (Writer.write (.primitive h ts) true) name).1 = .ok e ∧
    e.inner? = some [.primitive h' ts'] ∧ h'.keyword = h.keyword ∧
    ts'.map Token.symbol = ts.map Token.symbol

/-- **A value of the environment can be written and read back exactly if its brackets nest** and do
not begin a dictionary. -/
theorem reread_iff {text name v a : String} {ss : List Token}
    (hlex : lex 1 text.toList = ⟨ss, none⟩)
    (hss : ss.map Token.symbol = [.word v, .reference a, .terminator])
    (hread : (ofText setup text name).1 = .ok e) (he : e.inner? = some [.primitive h ts])
    (hfinite : ∀ t ∈ ts, ∀ x, t.symbol = .number (.float x) → x.isFinite = true)
    (hbalanced : ∀ t ∈ ts, ∀ w, t.symbol = .word w → IsBalanced w)
    (hmode : setup'.settings.mode = .retain) (name' : String) :
    Rereads setup' name' h ts ↔ ts = [] ∨ IsValue ts := by
  obtain ⟨⟨_, l⟩, _, rfl, rfl, hvalue⟩ := List.map_eq_cons_iff.mp hss
  obtain ⟨⟨_, l'⟩, _, rfl, rfl, hlast⟩ := List.map_eq_cons_iff.mp hvalue
  obtain ⟨⟨_, l''⟩, rfl, rfl⟩ := List.map_eq_singleton_iff.mp hlast
  have hlegible := legible_lex 1 text.toList
  rw [hlex] at hlegible
  rw [ofText, Writer.ofText_eq_ofTokens hlex] at hread
  obtain ⟨head, us, rfl⟩ := entry_of_reference hread
  cases he
  have hspelt : ∀ t ∈ ts, t.symbol.Legible ∧ t.symbol.isMacro = false :=
    spelt_of_read hlegible hread ts (by simp [values, valuesOf])
  have hwritable : ∀ t ∈ ts, t.symbol.Writable := fun t ht =>
    (hspelt t ht).1.writable (hspelt t ht).2 (hbalanced t ht) (hfinite t ht)
  have hword : Heading.Writable ⟨v, false, l, l''⟩ := hlegible ⟨.word v, l⟩ List.mem_cons_self
  obtain ⟨ws, hlex', hws⟩ := Writer.lexes_primitive hword hwritable Lexes.nil 0 1
  rw [List.append_nil] at hlex'
  have hofText : Input.ofText name' (Writer.write (.primitive ⟨v, false, l, l''⟩ ts) true) =
    .ofTokens name' ws := Writer.ofText_eq_ofTokens hlex' name'
  unfold Rereads
  rw [ofText, hofText]
  obtain ⟨⟨_, m⟩, _, rfl, rfl, hbody⟩ := List.map_eq_cons_iff.mp hws
  obtain ⟨vs, _, rfl, hvs, hlast⟩ := List.map_eq_append_iff.mp hbody
  obtain ⟨⟨_, m'⟩, rfl, rfl⟩ := List.map_eq_singleton_iff.mp hlast
  constructor
  · rintro ⟨e', h', ts', hread', he', -, hts'⟩
    have hsymbols : ∀ s ∈ vs.map Token.symbol, s.isMacro = false := by
      rw [hvs]
      exact List.forall_mem_map.mpr fun t ht => (hspelt t ht).2
    have hmacro : ∀ t ∈ ⟨keywordSymbol v false, m⟩ :: (vs ++ [⟨.terminator, m'⟩]),
        t.symbol.isMacro = false :=
      List.forall_mem_cons.mpr ⟨isMacro_keywordSymbol v false, List.forall_mem_append.mpr
        ⟨List.forall_mem_map.mp hsymbols, List.forall_mem_singleton.mpr rfl⟩⟩
    rcases read_cases hmode name' hmacro with ⟨es, hdocument, hok⟩ | ⟨f, -, herror⟩
    · cases hread'.symm.trans hok
      cases he'
      rcases hdocument.isValue (List.mem_singleton_self _) with rfl | hvalue
      · exact .inl (List.map_eq_nil_iff.mp hts'.symm)
      · exact .inr (hvalue.congr hts'.symm)
    · cases hread'.symm.trans herror
  · intro hts
    have hstatement : Grammar.Statement setup'.settings.maxNesting 0
        (⟨keywordSymbol v false, m⟩ :: vs ++ [⟨.terminator, m'⟩]) (.primitive ⟨v, false, m, m'⟩ vs) :=
      statement_of_value rfl hts hvs
    have hdocument := Document.read hmode name' (.closed (.cons hstatement .nil))
    rw [List.append_nil] at hdocument
    exact ⟨_, _, vs, hdocument, rfl, rfl, hvs⟩

/-- A text that is a reference to the variable `A`. -/
theorem lex_variable : lex 1 "x $A;".toList =
    ⟨[⟨.word "x", 1⟩, ⟨.reference "A", 1⟩, ⟨.terminator, 1⟩], none⟩ :=
  lex_of_lexWithin (n := 5) (by cbv)

/-- A list in brackets. -/
theorem reread_list : ∃ e h ts,
    (ofText (environmentSetup [("A", "(1 2)")]) "x $A;").1 = .ok e ∧
      e.inner? = some [.primitive h ts] ∧
      (∀ t ∈ ts, ∀ x, t.symbol = .number (.float x) → x.isFinite = true) ∧
      (∀ t ∈ ts, ∀ w, t.symbol = .word w → IsBalanced w) ∧
      bareSetup.settings.mode = .retain ∧ Rereads bareSetup "<inline>" h ts := by
  have hread : (ofText (environmentSetup [("A", "(1 2)")]) "x $A;").1 =
      .ok (.dictionary ⟨"<inline>", false, 1, 1⟩ [.primitive ⟨"x", false, 1, 1⟩
        [⟨.opener .round, 1⟩, ⟨.number (.int 1), 1⟩, ⟨.number (.int 2), 1⟩,
          ⟨.closer .round, 1⟩]]) := by
    rw [ofText, Writer.ofText_eq_ofTokens lex_variable]
    cbv
  have hnested : IsValue [⟨.opener .round, 1⟩, ⟨.number (.int 1), 1⟩, ⟨.number (.int 2), 1⟩,
      ⟨.closer .round, 1⟩] :=
    ⟨by simp, by simp, .group (.atom rfl (.atom rfl .nil)) .nil⟩
  have hretain : bareSetup.settings.mode = .retain := rfl
  have hrereads := (reread_iff lex_variable rfl hread rfl (by simp) (by simp) hretain
    "<inline>").mpr (.inr hnested)
  exact ⟨_, _, _, hread, rfl, by simp, by simp, rfl, hrereads⟩

/-- A closing bracket by itself is taken from the environment and written, but not read. -/
theorem not_reread : ¬∀ (environment : List (String × String)) (e : Entry) (h : Heading)
    (ts : List Token), (ofText (environmentSetup environment) "x $A;").1 = .ok e →
      e.inner? = some [.primitive h ts] →
      (∀ t ∈ ts, ∀ x, t.symbol = .number (.float x) → x.isFinite = true) →
      (∀ t ∈ ts, ∀ w, t.symbol = .word w → IsBalanced w) → Rereads bareSetup "<inline>" h ts := by
  intro hall
  have hread : (ofText (environmentSetup [("A", ")")]) "x $A;").1 =
      .ok (.dictionary ⟨"<inline>", false, 1, 1⟩ [.primitive ⟨"x", false, 1, 1⟩
        [⟨.closer .round, 1⟩]]) := by
    rw [ofText, Writer.ofText_eq_ofTokens lex_variable]
    cbv
  obtain ⟨e, h', ts', hread', -⟩ := hall _ _ _ _ hread rfl (by simp) (by simp)
  have hlex : lex 1 (Writer.write (.primitive ⟨"x", false, 1, 1⟩ [⟨.closer .round, 1⟩]) true).toList =
      ⟨[⟨.word "x", 1⟩, ⟨.closer .round, 1⟩, ⟨.terminator, 1⟩], none⟩ :=
    lex_of_lexWithin (n := 20) (by cbv)
  have hfails : (read bareSetup (.ofTokens "<inline>" [⟨.word "x", 1⟩, ⟨.closer .round, 1⟩,
      ⟨.terminator, 1⟩])).1 = .error (.inText (.unopened .round) 1 "<inline>") := by cbv
  rw [ofText, Writer.ofText_eq_ofTokens hlex] at hread'
  cases hread'.symm.trans hfails

end Reader

end CaseDict
