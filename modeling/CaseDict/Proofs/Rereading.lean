import CaseDict.Proofs.RoundTrip
import CaseDict.Proofs.Stored
/-! # Writing what was read

Two entries can be read that the notation cannot express: a dictionary copied to a plain keyword
that is no word, since the copy of a dictionary under a quoted keyword stays plain, and a value that
begins like a dictionary, since a reference in front of it may stand for nothing. All other entries
that are read come back when they are written and read again. -/

namespace CaseDict

open Grammar Lexer

namespace Entry

/-- Plain keywords in the entry are words, and no value in it begins like a dictionary. -/
structure Expressible (e : Entry) : Prop where
  keywords : ∀ h ∈ e.headings, h.isPattern = false → IsWord h.keyword
  values : ∀ v ∈ e.values, ∀ t ∈ v.head?, t.symbol ≠ .opener .brace

/-- All entries are expressible. -/
abbrev AllExpressible (es : List Entry) : Prop := ∀ e ∈ es, e.Expressible

theorem expressible_primitive {h : Heading} {ts : List Token} : (primitive h ts).Expressible ↔
    (h.isPattern = false → IsWord h.keyword) ∧ ∀ t ∈ ts.head?, t.symbol ≠ .opener .brace :=
  ⟨fun he => ⟨he.keywords h (by simp [headings]), he.values ts (by simp [values])⟩,
    fun ⟨hk, hv⟩ => ⟨by simpa [headings] using hk, by simpa [values] using hv⟩⟩

theorem expressible_dictionary {h : Heading} {es : List Entry} : (dictionary h es).Expressible ↔
    (h.isPattern = false → IsWord h.keyword) ∧ AllExpressible es := by
  constructor
  · intro he
    refine ⟨he.keywords h (by simp [headings]), fun e hmem => ⟨fun k hk => ?_, fun v hv => ?_⟩⟩
    · exact he.keywords k (List.mem_cons_of_mem _ (mem_headingsOf.mpr ⟨e, hmem, hk⟩))
    · exact he.values v (mem_valuesOf.mpr ⟨e, hmem, hv⟩)
  · rintro ⟨hh, hes⟩
    refine ⟨List.forall_mem_cons.mpr ⟨hh, fun k hk => ?_⟩, fun v hv => ?_⟩
    · obtain ⟨e, hmem, hk⟩ := mem_headingsOf.mp hk
      exact (hes e hmem).keywords k hk
    · obtain ⟨e, hmem, hv⟩ := mem_valuesOf.mp hv
      exact (hes e hmem).values v hv

/-- What is missing for legible entries to be read back: they must be expressible, numbers in them
finite and the brackets in words balanced. -/
theorem AllExpressible.allWritable {es : List Entry} (he : AllExpressible es) (hc : AllChecked es)
    (hl : AllLegible es)
    (hf : ∀ v ∈ valuesOf es, ∀ t ∈ v, ∀ x, t.symbol = .number (.float x) → x.isFinite = true)
    (hb : ∀ v ∈ valuesOf es, ∀ t ∈ v, ∀ w, t.symbol = .word w → IsBalanced w) :
    AllWritable es := by
  refine allWritable_iff.mpr ⟨fun h hh => ?_, fun v hv => ?_⟩
  · obtain ⟨e, hmem, hh⟩ := mem_headingsOf.mp hh
    unfold Heading.Writable
    split
    · next hp => exact Heading.failure?_eq_none.mp (hc e hmem h hh) hp
    · next hp => exact (he e hmem).keywords h hh (by simpa using hp)
  · obtain ⟨e, hmem, hve⟩ := mem_valuesOf.mp hv
    have hlv := hl e hmem v hve
    refine ⟨fun t ht => ?_, hlv.nested, (he e hmem).values v hve⟩
    exact (hlv.symbols t ht).writable (hlv.nested.isMacro t ht) (hb v hv t ht) (hf v hv t ht)

/-! ### Lines do not matter -/

mutual

theorem expressible_unlined : ∀ {e : Entry}, e.unlined.Expressible ↔ e.Expressible
  | .primitive h ts => by
    simp only [unlined, expressible_primitive, List.head?_map, Option.mem_map, forall_exists_index,
      and_imp, forall_apply_eq_imp_iff₂]
    rfl
  | .dictionary h es => by
    rw [unlined, expressible_dictionary, expressible_dictionary, allExpressible_unlined]
    rfl

theorem allExpressible_unlined : ∀ {es : List Entry},
    AllExpressible (unlinedAll es) ↔ AllExpressible es
  | [] => Iff.rfl
  | _ :: _ => List.forall_mem_cons.trans
      ((and_congr expressible_unlined allExpressible_unlined).trans List.forall_mem_cons.symm)

end

end Entry

/-! ### What is read without references is expressible -/

namespace Grammar

open Entry

variable {limit : Int}

theorem isWord_of_heading? {k : Token} {line : Int} {h : Heading} (hk : heading? k line = some h)
    (hl : k.symbol.Legible) (hp : h.isPattern = false) : IsWord h.keyword := by
  obtain ⟨s, p, hs, rfl, -⟩ := heading?_eq_some hk
  obtain rfl : p = false := hp
  rw [hs] at hl
  exact hl

mutual

theorem Statement.expressible {n : Nat} {ts : List Token} {e : Entry} :
    Statement limit n ts e → (∀ t ∈ ts, t.symbol.Legible) → e.Expressible
  | .bare hk, hl => expressible_primitive.mpr ⟨isWord_of_heading? hk (hl _ (by simp)), by simp⟩
  | .value hk hvs, hl =>
    expressible_primitive.mpr ⟨isWord_of_heading? hk (hl _ (by simp)), hvs.unbraced⟩
  | .dictionary hk _ hts, hl =>
    expressible_dictionary.mpr ⟨isWord_of_heading? hk (hl _ (by simp)),
      hts.expressible fun t ht => hl t (by simp [ht])⟩

theorem Body.expressible {n : Nat} {ts : List Token} {es : List Entry} :
    Body limit n ts es → (∀ t ∈ ts, t.symbol.Legible) → AllExpressible es
  | .nil, _ => List.forall_mem_nil _
  | .spare hts, hl => hts.expressible (List.forall_mem_cons.mp hl).2
  | .cons hss hts, hl => by
    obtain ⟨hl, hl'⟩ := List.forall_mem_append.mp hl
    exact List.forall_mem_cons.mpr ⟨hss.expressible hl, hts.expressible hl'⟩

end

theorem Document.expressible {n : Nat} {line : Int} {ts : List Token} {es : List Entry}
    (h : Document limit n line ts es) (hl : ∀ t ∈ ts, t.symbol.Legible) : AllExpressible es := by
  cases h with
  | closed hts => exact hts.expressible hl
  | @bare ts es k h hts hk =>
    obtain ⟨hl, hl'⟩ := List.forall_mem_append.mp hl
    have he : (Entry.primitive h []).Expressible :=
      expressible_primitive.mpr ⟨isWord_of_heading? hk (hl' _ (by simp)), by simp⟩
    exact forall_mem_concat (hts.expressible hl) he
  | value hts hk hvs =>
    obtain ⟨hl, hl'⟩ := List.forall_mem_append.mp hl
    have he := expressible_primitive.mpr ⟨isWord_of_heading? hk (hl' _ (by simp)), hvs.unbraced⟩
    exact forall_mem_concat (hts.expressible hl) he

end Grammar

namespace Writer

open Entry

/-- The entries of a dictionary come back, on other lines, when it is written and read again. -/
def Restores (setup : Setup) (name : String) (h : Heading) (es : List Entry) : Prop :=
  ∃ line es', (Reader.ofText setup (write (.dictionary h es) false) name).1 =
    .ok (.dictionary ⟨name, false, 1, line⟩ es') ∧ unlinedAll es' = unlinedAll es

/-- **What was read can be written and read back exactly if it is expressible.** Else the entries do
not come back, or references and directives appear in what is written of them. -/
theorem restores_iff {setup : Setup} (henv : setup.settings.environment = []) {text name : String}
    (hfiles : ∀ t ∈ (lex 1 text.toList).tokens, ¬t.symbol.Includes setup.registry)
    {h : Heading} {es : List Entry}
    (hread : (Reader.ofText setup text name).1 = .ok (.dictionary h es))
    (hfinite : ∀ v ∈ valuesOf es, ∀ t ∈ v, ∀ x, t.symbol = .number (.float x) → x.isFinite = true)
    (hbalanced : ∀ v ∈ valuesOf es, ∀ t ∈ v, ∀ w, t.symbol = .word w → IsBalanced w)
    {setup' : Setup} (hmode : setup'.settings.mode = .retain)
    (hdepth : (depthOf es : Int) ≤ setup'.settings.maxNesting) (name' : String) :
    AllExpressible es ↔ Restores setup' name' h es ∧
      ∃ ts, lex 1 (write (.dictionary h es) false).toList = ⟨ts, none⟩ ∧
        ∀ t ∈ ts, t.symbol.isMacro = false := by
  have hplain : (Input.ofText name text).IsPlain setup.registry :=
    fun t ht => ⟨legible_lex 1 text.toList t ht, hfiles t ht⟩
  constructor
  · intro hes
    have hw : AllWritable es := hes.allWritable (Reader.allChecked_of_read hread)
      (Reader.allLegible_of_read henv hplain hread) hfinite hbalanced
    obtain ⟨ts, hlex, hss⟩ := lex_write hw h
    obtain ⟨es', hbody, hes'⟩ := Grammar.body_of_symbols hw (n := 0) (by simpa using hdepth) hss
    refine ⟨⟨lineAfter 0 ts, es', ?_, hes'⟩, ts, hlex, ?_⟩
    · rw [Reader.ofText, ofText_eq_ofTokens hlex]
      exact Document.read hmode name' (.closed hbody)
    · have hm := isMacro_symbolsOf hw
      rw [← hss] at hm
      exact List.forall_mem_map.mp hm
  · rintro ⟨⟨line, es', hread', hes'⟩, ts, hlex, hm⟩
    have hlegible : ∀ t ∈ ts, t.symbol.Legible := by
      have hl := legible_lex 1 (write (.dictionary h es) false).toList
      rwa [hlex] at hl
    rw [Reader.ofText, ofText_eq_ofTokens hlex] at hread'
    rcases Grammar.read_cases hmode name' hm with ⟨es'', hdoc, hok⟩ | ⟨f, -, herr⟩
    · rw [hread'] at hok
      cases hok
      have hes := allExpressible_unlined.mpr (hdoc.expressible hlegible)
      rw [hes'] at hes
      exact allExpressible_unlined.mp hes
    · rw [hread'] at herr
      contradiction

/-- A text with a reference. -/
theorem restores_reference : ∃ h es,
    (Reader.ofText bareSetup "x 1;y $x;" "t").1 = .ok (.dictionary h es) ∧ es.length = 2 ∧
      Restores bareSetup "t" h es := by
  have hlex : lex 1 "x 1;y $x;".toList = ⟨[⟨.word "x", 1⟩, ⟨.number (.int 1), 1⟩, ⟨.terminator, 1⟩,
      ⟨.word "y", 1⟩, ⟨.reference "x", 1⟩, ⟨.terminator, 1⟩], none⟩ :=
    lex_of_lexWithin (n := 7) (by cbv)
  have hread : (Reader.ofText bareSetup "x 1;y $x;" "t").1 = .ok (.dictionary ⟨"t", false, 1, 1⟩
      [.primitive ⟨"x", false, 1, 1⟩ [⟨.number (.int 1), 1⟩],
        .primitive ⟨"y", false, 1, 1⟩ [⟨.number (.int 1), 1⟩]]) := by
    rw [Reader.ofText, ofText_eq_ofTokens hlex]
    cbv
  have hfiles : ∀ t ∈ (lex 1 "x 1;y $x;".toList).tokens, ¬t.symbol.Includes .standard := by
    rw [hlex]
    simp [Symbol.Includes]
  have hx : IsWord "x" := lex_of_lexWithin (n := 2) (by cbv)
  have hy : IsWord "y" := lex_of_lexWithin (n := 2) (by cbv)
  refine ⟨_, _, hread, rfl, ?_⟩
  refine ((restores_iff rfl hfiles hread ?_ ?_ rfl (by decide) "t").mp ?_).1
  · simp [valuesOf, values]
  · simp [valuesOf, values]
  · simp [AllExpressible, expressible_primitive, hx, hy]

/-! ### What does not come back -/

theorem not_restores_of_read {setup : Setup} {name : String} {h h' : Heading} {es es' : List Entry}
    (hr : (Reader.ofText setup (write (.dictionary h es) false) name).1 =
      .ok (.dictionary h' es')) (hne : unlinedAll es' ≠ unlinedAll es) :
    ¬Restores setup name h es := by
  rintro ⟨line, es'', hr', hu⟩
  rw [hr] at hr'
  cases hr'
  exact hne hu

/-- A dictionary and its copy under a quoted keyword. -/
def copied : List Entry := [.dictionary ⟨"d", false, 1, 1⟩ [], .dictionary ⟨"a b", false, 1, 1⟩ []]

theorem read_copied : (Reader.ofText bareSetup "d\x7b\x7d\"a b\"$d;" "t").1 =
    .ok (.dictionary ⟨"t", false, 1, 1⟩ copied) := by
  have hlex : lex 1 "d\x7b\x7d\"a b\"$d;".toList = ⟨[⟨.word "d", 1⟩, ⟨.opener .brace, 1⟩,
      ⟨.closer .brace, 1⟩, ⟨.quoted "a b", 1⟩, ⟨.reference "d", 1⟩, ⟨.terminator, 1⟩], none⟩ :=
    lex_of_lexWithin (n := 7) (by cbv)
  rw [Reader.ofText, ofText_eq_ofTokens hlex]
  cbv

/-- The keyword comes back as a keyword and a word of its value. -/
theorem reread_copied :
    (Reader.ofText bareSetup (write (.dictionary ⟨"t", false, 1, 1⟩ copied) false) "t").1 =
      .ok (.dictionary ⟨"t", false, 1, 6⟩ [.dictionary ⟨"d", false, 1, 3⟩ [],
        .primitive ⟨"a", false, 4, 6⟩
          [⟨.word "b", 4⟩, ⟨.opener .brace, 5⟩, ⟨.closer .brace, 6⟩]]) := by
  have hlex : lex 1 (write (.dictionary ⟨"t", false, 1, 1⟩ copied) false).toList =
      ⟨[⟨.word "d", 1⟩, ⟨.opener .brace, 2⟩, ⟨.closer .brace, 3⟩, ⟨.word "a", 4⟩, ⟨.word "b", 4⟩,
        ⟨.opener .brace, 5⟩, ⟨.closer .brace, 6⟩], none⟩ := lex_of_lexWithin (n := 8) (by cbv)
  rw [Reader.ofText, ofText_eq_ofTokens hlex]
  cbv

/-- An entry without a value, and one whose value begins with a brace after a reference to it. -/
def braced : List Entry := [.primitive ⟨"a", false, 1, 1⟩ [],
  .primitive ⟨"x", false, 1, 1⟩ [⟨.opener .brace, 1⟩, ⟨.closer .brace, 1⟩]]

theorem read_braced : (Reader.ofText bareSetup "a;x $a\x7b\x7d;" "t").1 =
    .ok (.dictionary ⟨"t", false, 1, 1⟩ braced) := by
  have hlex : lex 1 "a;x $a\x7b\x7d;".toList = ⟨[⟨.word "a", 1⟩, ⟨.terminator, 1⟩, ⟨.word "x", 1⟩,
      ⟨.reference "a", 1⟩, ⟨.opener .brace, 1⟩, ⟨.closer .brace, 1⟩, ⟨.terminator, 1⟩], none⟩ :=
    lex_of_lexWithin (n := 8) (by cbv)
  rw [Reader.ofText, ofText_eq_ofTokens hlex]
  cbv

/-- The value comes back as a dictionary. -/
theorem reread_braced :
    (Reader.ofText bareSetup (write (.dictionary ⟨"t", false, 1, 1⟩ braced) false) "t").1 =
      .ok (.dictionary ⟨"t", false, 1, 2⟩
        [.primitive ⟨"a", false, 1, 1⟩ [], .dictionary ⟨"x", false, 2, 2⟩ []]) := by
  have hlex : lex 1 (write (.dictionary ⟨"t", false, 1, 1⟩ braced) false).toList =
      ⟨[⟨.word "a", 1⟩, ⟨.terminator, 1⟩, ⟨.word "x", 2⟩, ⟨.opener .brace, 2⟩,
        ⟨.closer .brace, 2⟩, ⟨.terminator, 2⟩], none⟩ := lex_of_lexWithin (n := 7) (by cbv)
  rw [Reader.ofText, ofText_eq_ofTokens hlex]
  cbv

/-- **Neither of them comes back**, though there are no words or numbers in their values and no
brackets in their keywords. -/
theorem not_restores :
    (∃ h es, (Reader.ofText bareSetup "d\x7b\x7d\"a b\"$d;" "t").1 = .ok (.dictionary h es) ∧
      (∀ v ∈ valuesOf es, ∀ t ∈ v, t.symbol.isPunctuation) ∧
      (∀ k ∈ headingsOf es, IsBalanced k.keyword) ∧ ¬Restores bareSetup "t" h es) ∧
    ∃ h es, (Reader.ofText bareSetup "a;x $a\x7b\x7d;" "t").1 = .ok (.dictionary h es) ∧
      (∀ v ∈ valuesOf es, ∀ t ∈ v, t.symbol.isPunctuation) ∧
      (∀ k ∈ headingsOf es, IsBalanced k.keyword) ∧ ¬Restores bareSetup "t" h es := by
  constructor
  · refine ⟨_, _, read_copied, by decide, ?_, not_restores_of_read reread_copied ?_⟩
    · simp [copied, headingsOf, headings, IsBalanced]
    · simp [copied, unlinedAll, unlined]
  · refine ⟨_, _, read_braced, by decide, ?_, not_restores_of_read reread_braced ?_⟩
    · simp [braced, headingsOf, headings, IsBalanced]
    · simp [braced, unlinedAll, unlined]

end Writer

end CaseDict
