import CaseDict.Proofs.InclusionDepth
/-! # The limits are exact

What a text takes of expansions and of dictionaries inside of one another is read exactly if the
limit allows as many: no level is counted twice and none is left out, whether it is a variable, a
negation, a file or a dictionary (`Reader.limits_exact`). -/

namespace CaseDict

open Entry Expansion Statement Grammar

variable {setup : Setup} {ts : List Token} {es : List Entry}

/-- A document is read exactly if the limit allows as many dictionaries inside of one another. -/
theorem Grammar.Document.nests {limit : Int} (h : Document limit 0 0 ts es) (hpos : 0 < depthOf es)
    (hdistinct : setup.settings.mode = .error → AllDistinct es) (name : String) :
    WithinLimit .nestingExceeded ((depthOf es : Int) ≤ setup.settings.maxNesting)
      (fun e _ => setup.settings.mode = .retain ∨ AllDistinct es → e.inner? = some es)
      (Reader.read setup (.ofTokens name ts)) := by
  have hiff : (depthOf es : Int) ≤ setup.settings.maxNesting ↔
      ∀ e ∈ es, e.Within setup.settings.maxNesting 0 :=
    (forall_within_iff.trans (forall_prop_of_true hpos)).symm
  -- Only the last statement, which is no dictionary, may be left without its terminator.
  cases h with
  | closed hts =>
    have hreads : ReadsOn setup (setup.settings.budget 0) .nestingExceeded
      (∀ e ∈ es, e.Within setup.settings.maxNesting 0) name 0 ts es := hts.readsOn
    have hread := hreads.read (.closed .nil) (by rwa [List.append_nil])
    simp only [List.append_nil] at hread
    exact hread.congr hiff
  | bare hts hk =>
    refine (hts.readsOn.read (.bare .nil hk) hdistinct).congr (hiff.trans ?_)
    simp [or_imp, forall_and, Entry.Within, Entry.depth]
  | value hts hk hvs =>
    rw [lineAfter_append] at hk
    refine (hts.readsOn.read (.value .nil hk hvs) hdistinct).congr (hiff.trans ?_)
    simp [or_imp, forall_and, Entry.Within, Entry.depth]

namespace Reader

variable {n : Nat} {text : String}

/-- **The limits are exact.** A text with a reference to a chain of `n` variables, with `n` files
inside of one another, or with `n` negations before a number is read if the limit of expansion is
`n` or more and overflows if it is less, and one with `n` dictionaries inside of one another is
read if the limit of nesting is `n` or more and fails at it if it is less. -/
theorem limits_exact (hinclude : setup.registry.find? "include" = some (.includeFile false))
    (hneg : setup.registry.find? "neg" = some .negate)
    (hlex : Lexer.lex 1 text.toList = ⟨ts, none⟩) (hn : 0 < n) (name : String) :
    (∀ v a ss, ts.map Token.symbol = [.word v, .reference a, .terminator] →
      Denotes setup.settings.environment n [.reference a] ss →
        WithinLimit .expansionOverflow ((n : Int) ≤ setup.settings.maxExpansion)
          (fun e _ => ∃ l l' us, e.inner? = some [.primitive ⟨v, false, l, l'⟩ us] ∧
            us.map Token.symbol = ss) (ofText setup text name)) ∧
    (∀ front last es es', ts = front ++ last → Included setup name 0 n front es →
      Document setup.settings.maxNesting 0 (lineAfter 0 front) last es' →
      (setup.settings.mode = .error → AllDistinct (es ++ es')) →
        WithinLimit .expansionOverflow ((n : Int) ≤ setup.settings.maxExpansion)
          (fun e _ => setup.settings.mode = .retain ∨ AllDistinct (es ++ es') →
            e.inner? = some (es ++ es')) (ofText setup text name)) ∧
    (∀ v x, ts.map Token.symbol =
        .word v :: (List.replicate n (.directive "neg") ++ [.number x, .terminator]) →
      WithinLimit .expansionOverflow ((n : Int) ≤ setup.settings.maxExpansion)
        (fun e _ => ∃ l l' us, e.inner? = some [.primitive ⟨v, false, l, l'⟩ us] ∧
          us.map Token.symbol = [.number (Number.negate^[n] x)]) (ofText setup text name)) ∧
    (∀ limit es, Document limit 0 0 ts es → depthOf es = n →
      (setup.settings.mode = .error → AllDistinct es) →
        WithinLimit .nestingExceeded ((n : Int) ≤ setup.settings.maxNesting)
          (fun e _ => setup.settings.mode = .retain ∨ AllDistinct es → e.inner? = some es)
          (ofText setup text name)) := by
  have hbudget : (n : Int) ≤ setup.settings.maxExpansion ↔ n ≤ setup.settings.budget 0 := by
    unfold Settings.budget
    omega
  have hread : ofText setup text name = read setup (.ofTokens name ts) := by
    rw [ofText, Writer.ofText_eq_ofTokens hlex]
  rw [hread]
  refine ⟨fun v a ss hts hss => ?_, fun front last es es' hts hfront hlast hdistinct => ?_,
    fun v x hts => ?_, fun limit es hts hdepth hdistinct => ?_⟩
  · obtain ⟨⟨_, l⟩, _, rfl, rfl, hvalue⟩ := List.map_eq_cons_iff.mp hts
    obtain ⟨⟨_, l'⟩, _, rfl, rfl, hlast⟩ := List.map_eq_cons_iff.mp hvalue
    obtain ⟨⟨_, l''⟩, rfl, rfl⟩ := List.map_eq_singleton_iff.mp hlast
    refine ((read_reference hss).congr hbudget).imp fun e _ he => ⟨_, _, _, he, ?_⟩
    rw [List.map_map]
    exact List.map_id _
  · subst hts
    exact ((hfront.readsOn hinclude _).read hlast hdistinct).congr hbudget
  · obtain ⟨m, rfl⟩ : ∃ m, n = m + 1 := ⟨n - 1, by omega⟩
    obtain ⟨⟨_, l⟩, _, rfl, rfl, hvalue⟩ := List.map_eq_cons_iff.mp hts
    rw [← @List.singleton_append _ _ [Symbol.terminator], ← List.append_assoc] at hvalue
    obtain ⟨_, _, rfl, hus, hlast⟩ := List.map_eq_append_iff.mp hvalue
    obtain ⟨⟨_, l'⟩, rfl, rfl⟩ := List.map_eq_singleton_iff.mp hlast
    obtain ⟨t, us, rfl, -, -⟩ := List.map_eq_cons_iff.mp hus
    exact ((read_negations hneg hus).congr hbudget).imp fun e _ he => ⟨_, _, _, he, rfl⟩
  · subst hdepth
    exact hts.nests hn hdistinct name

/-- A setup with such limits, a variable `A` that is a reference to another one and a file `f` that
includes another one. -/
def chainSetup (limit : Int) : Setup where
  files := { current := "/", find := fun path =>
    if path = "/f" then .file "#include g".toUTF8
    else if path = "/g" then .file "x 1;".toUTF8
    else .fault .missing }
  settings := { maxExpansion := limit, maxNesting := limit, environment := [("A", "$B"), ("B", "7")] }

theorem denotes_chain (limit : Int) : Denotes (chainSetup limit).settings.environment 2
    [.reference "A"] [.number (.int 7)] := by
  have hA : Lexer.lex 1 "$B".toList = ⟨[⟨.reference "B", 1⟩], none⟩ :=
    Lexer.lex_of_lexWithin (n := 2) (by cbv)
  have hB : Lexer.lex 1 "7".toList = ⟨[⟨.number (.int 7), 1⟩], none⟩ :=
    Lexer.lex_of_lexWithin (n := 2) (by cbv)
  have hlast : Denotes (chainSetup limit).settings.environment 1 [.reference "B"]
      [.number (.int 7)] := .named (by cbv) rfl hB (by simp) (.plain rfl .nil) .nil
  exact .chain (by cbv) rfl hA hlast

theorem chainSetup_finds (limit : Int) : (chainSetup limit).Finds "t" "f" (.ofString "/f") ∧
    (chainSetup limit).Finds (Path.ofString "/f").text "g" (.ofString "/g") := by
  constructor
  · intro frames log
    exact ⟨[.ofString "/f"], log ++ [.consulted "t"],
      log ++ [.consulted "t"] ++ [.consulted "/f"], by cbv, by cbv⟩
  · intro frames log
    exact ⟨[.ofString "/g"], log ++ [.consulted "/f"],
      log ++ [.consulted "/f"] ++ [.consulted "/g"], by cbv, by cbv⟩

/-- The entry in the last file. -/
def chainedEntry : Entry := .primitive ⟨"x", false, 1, 1⟩ [⟨.number (.int 1), 1⟩]

theorem included_chain (limit : Int) : Included (chainSetup limit) "t" 0 2
    [⟨.directive "include", 1⟩, ⟨.word "f", 1⟩] [chainedEntry] := by
  have hf : Lexer.lex 1 "#include g".toList =
      ⟨[⟨.directive "include", 1⟩, ⟨.word "g", 1⟩] ++ [], none⟩ :=
    Lexer.lex_of_lexWithin (n := 4) (by cbv)
  have hg : Lexer.lex 1 "x 1;".toList =
      ⟨[⟨.word "x", 1⟩, ⟨.number (.int 1), 1⟩, ⟨.terminator, 1⟩] ++ [], none⟩ :=
    Lexer.lex_of_lexWithin (n := 5) (by cbv)
  have hvalue : IsValue [⟨.number (.int 1), 1⟩] := ⟨by simp, by simp, .atom rfl .nil⟩
  have hbody : Body (chainSetup limit).settings.maxNesting 0
      [⟨.word "x", 1⟩, ⟨.number (.int 1), 1⟩, ⟨.terminator, 1⟩] [chainedEntry] :=
    .cons (.value (k := ⟨.word "x", 1⟩) rfl hvalue) .nil
  obtain ⟨hfindsf, hfindsg⟩ := chainSetup_finds limit
  have hlast : Included (chainSetup limit) (Path.ofString "/f").text 0 1
      [⟨.directive "include", 1⟩, ⟨.word "g", 1⟩] ([chainedEntry] ++ []) :=
    .file (.inr rfl) (by decide) hfindsg (by cbv) hg (.literal hbody) (.closed .nil)
  exact .file (.inr rfl) (by decide) hfindsf (by cbv) hf hlast (.closed .nil)

/-- Chains of two under limits that they reach and exceed. -/
theorem limits_exact_two : (0 : Nat) < 2 ∧
    (Lexer.lex 1 "v $A;".toList =
        ⟨[⟨.word "v", 1⟩, ⟨.reference "A", 1⟩, ⟨.terminator, 1⟩], none⟩ ∧
      (∃ e log, ofText (chainSetup 2) "v $A;" "t" = (.ok e, log) ∧ ∃ l l' us,
        e.inner? = some [.primitive ⟨"v", false, l, l'⟩ us] ∧
          us.map Token.symbol = [.number (.int 7)]) ∧
      ∃ f log, ofText (chainSetup 1) "v $A;" "t" = (.error f, log) ∧
        f.class? = some .expansionOverflow) ∧
    (Lexer.lex 1 "#include f".toList =
        ⟨[⟨.directive "include", 1⟩, ⟨.word "f", 1⟩] ++ [], none⟩ ∧
      (∃ e log, ofText (chainSetup 2) "#include f" "t" = (.ok e, log) ∧
        e.inner? = some [chainedEntry]) ∧
      ∃ f log, ofText (chainSetup 1) "#include f" "t" = (.error f, log) ∧
        f.class? = some .expansionOverflow) ∧
    (Lexer.lex 1 "b #neg #neg 3;".toList = ⟨[⟨.word "b", 1⟩, ⟨.directive "neg", 1⟩,
        ⟨.directive "neg", 1⟩, ⟨.number (.int 3), 1⟩, ⟨.terminator, 1⟩], none⟩ ∧
      (∃ e log, ofText (chainSetup 2) "b #neg #neg 3;" "t" = (.ok e, log) ∧ ∃ l l' us,
        e.inner? = some [.primitive ⟨"b", false, l, l'⟩ us] ∧
          us.map Token.symbol = [.number (.int 3)]) ∧
      ∃ f log, ofText (chainSetup 1) "b #neg #neg 3;" "t" = (.error f, log) ∧
        f.class? = some .expansionOverflow) ∧
    (Lexer.lex 1 "c{d{}}".toList = ⟨[⟨.word "c", 1⟩, ⟨.opener .brace, 1⟩,
        ⟨.word "d", 1⟩, ⟨.opener .brace, 1⟩, ⟨.closer .brace, 1⟩, ⟨.closer .brace, 1⟩], none⟩ ∧
      (∃ e log, ofText (chainSetup 2) "c{d{}}" "t" = (.ok e, log) ∧
        e.inner? = some [.dictionary ⟨"c", false, 1, 1⟩ [.dictionary ⟨"d", false, 1, 1⟩ []]]) ∧
      ∃ f log, ofText (chainSetup 1) "c{d{}}" "t" = (.error f, log) ∧
        f.class? = some .nestingExceeded) := by
  have hinclude (limit : Int) :
      (chainSetup limit).registry.find? "include" = some (.includeFile false) := rfl
  have hneg (limit : Int) : (chainSetup limit).registry.find? "neg" = some .negate := rfl
  have hretain (limit : Int) : (chainSetup limit).settings.mode = .retain := rfl
  have herror (limit : Int) (es : List Entry) :
      (chainSetup limit).settings.mode = .error → AllDistinct es := by simp [hretain]
  refine ⟨by decide, ?_, ?_, ?_, ?_⟩
  · have hlex : Lexer.lex 1 "v $A;".toList =
        ⟨[⟨.word "v", 1⟩, ⟨.reference "A", 1⟩, ⟨.terminator, 1⟩], none⟩ :=
      Lexer.lex_of_lexWithin (n := 5) (by cbv)
    have hread (limit : Int) := (limits_exact (hinclude limit) (hneg limit) hlex Nat.two_pos
      "t").1 "v" "A" _ rfl (denotes_chain limit)
    exact ⟨hlex, (hread 2).gives (by decide), (hread 1).fails (by decide)⟩
  · have hlex : Lexer.lex 1 "#include f".toList =
        ⟨[⟨.directive "include", 1⟩, ⟨.word "f", 1⟩] ++ [], none⟩ :=
      Lexer.lex_of_lexWithin (n := 4) (by cbv)
    have hread (limit : Int) := (limits_exact (hinclude limit) (hneg limit) hlex Nat.two_pos
      "t").2.1 _ _ _ _ rfl (included_chain limit) (.closed .nil) (herror limit _)
    obtain ⟨e, log, he, hentries⟩ := (hread 2).gives (by decide)
    exact ⟨hlex, ⟨e, log, he, hentries (.inl (hretain 2))⟩, (hread 1).fails (by decide)⟩
  · have hlex : Lexer.lex 1 "b #neg #neg 3;".toList = ⟨[⟨.word "b", 1⟩, ⟨.directive "neg", 1⟩,
        ⟨.directive "neg", 1⟩, ⟨.number (.int 3), 1⟩, ⟨.terminator, 1⟩], none⟩ :=
      Lexer.lex_of_lexWithin (n := 8) (by cbv)
    have hread (limit : Int) := (limits_exact (hinclude limit) (hneg limit) hlex Nat.two_pos
      "t").2.2.1 "b" (.int 3) rfl
    exact ⟨hlex, (hread 2).gives (by decide), (hread 1).fails (by decide)⟩
  · have hlex : Lexer.lex 1 "c{d{}}".toList = ⟨[⟨.word "c", 1⟩, ⟨.opener .brace, 1⟩,
        ⟨.word "d", 1⟩, ⟨.opener .brace, 1⟩, ⟨.closer .brace, 1⟩, ⟨.closer .brace, 1⟩], none⟩ :=
      Lexer.lex_of_lexWithin (n := 8) (by cbv)
    have hinner : Grammar.Statement 2 1
        (⟨.word "d", 1⟩ :: ⟨.opener .brace, 1⟩ :: [] ++ [⟨.closer .brace, 1⟩])
        (.dictionary ⟨"d", false, 1, 1⟩ []) := .dictionary rfl (by decide) .nil
    have houter : Grammar.Statement 2 0 (⟨.word "c", 1⟩ :: ⟨.opener .brace, 1⟩ ::
        [⟨.word "d", 1⟩, ⟨.opener .brace, 1⟩, ⟨.closer .brace, 1⟩] ++ [⟨.closer .brace, 1⟩])
        (.dictionary ⟨"c", false, 1, 1⟩ [.dictionary ⟨"d", false, 1, 1⟩ []]) :=
      .dictionary rfl (by decide) (.cons hinner .nil)
    have hread (limit : Int) := (limits_exact (hinclude limit) (hneg limit) hlex Nat.two_pos
      "t").2.2.2 2 _ (.closed (.cons houter .nil)) rfl (herror limit _)
    obtain ⟨e, log, he, hentries⟩ := (hread 2).gives (by decide)
    exact ⟨hlex, ⟨e, log, he, hentries (.inl (hretain 2))⟩, (hread 1).fails (by decide)⟩

end Reader

end CaseDict
