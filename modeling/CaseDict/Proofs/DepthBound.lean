import CaseDict.Proofs.Regime
import CaseDict.Proofs.Rereading
/-! # How deep dictionaries nest

The limit of nesting is looked at where a dictionary is written between braces, and nowhere else. So
it bounds what is read unless a read copies a dictionary to where it reaches deeper
(`Reader.depth_of_read`), and then what is written of the dictionary is read back under the limit. A
copy of `a{}` in `b` is too deep where one level is allowed (`Reader.depth_of_copy`). -/

namespace CaseDict

open Expansion Statement

namespace Ensures

variable {σ α : Type} {C : Contract σ}

/-- Where nothing is asked of a run, nothing is to be shown of it. -/
theorem trivially {m : ExceptT Failure (StateM σ) α} {post : α → Prop} (hinv : ∀ s, C.inv s)
    (hf : ∀ f s, C.fails f s) (ha : ∀ a, post a) : Ensures C m post := fun s _ => by
  rcases exec m s with ⟨f | a, t⟩
  · exact .error (hf f t)
  · exact .ok (hinv t) (ha a)

end Ensures

namespace Entry

theorem depthOf_le_iff {es : List Entry} {d : Nat} : depthOf es ≤ d ↔ ∀ e ∈ es, e.depth ≤ d := by
  induction es with
  | nil => simp [depthOf]
  | cons e es ih => simp [depthOf, ih]

/-- The dictionaries in the entry are within the limit if it stands at the level `n`. -/
def Within (limit : Int) (n : Nat) (e : Entry) : Prop := 0 < e.depth → (n + e.depth : Int) ≤ limit

variable {limit : Int} {n : Nat}

theorem within_dictionary {h : Heading} {es : List Entry} : (dictionary h es).Within limit n ↔
    (n : Int) < limit ∧ ∀ e ∈ es, e.Within limit (n + 1) := by
  unfold Within
  rw [depth]
  constructor
  · intro h
    have hlimit := h (Nat.succ_pos _)
    have hall : ∀ e ∈ es, e.depth ≤ depthOf es := depthOf_le_iff.mp (Nat.le_refl _)
    refine ⟨by omega, fun e he _ => ?_⟩
    have hle := hall e he
    omega
  · rintro ⟨hn, hes⟩ -
    have hle : depthOf es ≤ (limit - n - 1).toNat := depthOf_le_iff.mpr fun e he => by
      by_cases hpos : 0 < e.depth
      · have hlimit := hes e he hpos
        omega
      · omega
    omega

theorem forall_within_iff {es : List Entry} : (∀ e ∈ es, e.Within limit 0) ↔
    (0 < depthOf es → (depthOf es : Int) ≤ limit) := by
  have hle (d : Nat) : depthOf es ≤ d ↔ ∀ e ∈ es, e.depth ≤ d := depthOf_le_iff
  constructor
  · intro h hpos
    have hlimit : depthOf es ≤ limit.toNat := (hle _).mpr fun e he => by
      by_cases he' : 0 < e.depth
      · have hwithin : ((0 : Nat) + e.depth : Int) ≤ limit := h e he he'
        omega
      · omega
    omega
  · intro h e he hpos
    have hdepth : e.depth ≤ depthOf es := (hle _).mp (Nat.le_refl _) e he
    have hlimit := h (Nat.lt_of_lt_of_le hpos hdepth)
    omega

end Entry

/-- A guard against copies that reach deeper than the limit. -/
def Guard.deeper (limit : Int) : Guard
  | .copies n es => es.any fun e => 0 < e.depth && limit < n + e.depth
  | _ => false

namespace Regime

/-- Dictionaries are within the limit. -/
def nested (setup : Setup) : Regime (Guard.deeper setup.settings.maxNesting) setup where
  line _ := True
  source _ := True
  value _ := True
  entry := Entry.Within setup.settings.maxNesting
  fails _ := True
  placed _ := True
  line_after := id
  weaken := id
  stopped _ := trivial
  within _ _ := trivial
  inText _ _ := trivial
  unplaced _ := trivial
  keyword _ _ _ _ := trivial
  copying _ _ _ := trivial
  removing _ _ := trivial
  searching _ _ := trivial
  opened _ _ := ⟨trivial, fun _ _ => trivial, fun _ _ => trivial⟩
  nothing := trivial
  lines _ _ _ := trivial
  primitive _ _ h := by contradiction
  dictionary _ hn hes := Entry.within_dictionary.mpr ⟨hn, hes⟩
  valued _ := trivial
  inner hd := (Entry.within_dictionary.mp hd).2
  remade hd _ hes := Entry.within_dictionary.mpr ⟨(Entry.within_dictionary.mp hd).1, hes⟩
  copies {n es} hg _ e he hpos := by
    have hall := List.any_eq_false.mp hg e he
    simp only [hpos, decide_true, Bool.true_and, decide_eq_true_eq] at hall
    omega

theorem expands_nested (setup : Setup) : (nested setup).Expands where
  value _ _ _ _ := .trivially (fun _ => trivial) (fun _ _ => trivial)
    fun _ => ⟨trivial, fun _ _ => trivial, fun _ _ => trivial, trivial⟩
  argument _ _ _ _ := .trivially (fun _ => trivial) (fun _ _ => trivial)
    fun _ => ⟨⟨fun _ _ => trivial, fun _ _ => trivial, trivial⟩, trivial⟩

end Regime

namespace Grammar

variable {limit : Int}

theorem Statement.flat {ts : List Token} {e : Entry} : Statement 0 0 ts e → Statement limit 0 ts e
  | .bare hk => .bare hk
  | .dictionary _ hn _ => absurd hn (by decide)
  | .value hk hvs => .value hk hvs

/-- Entries without dictionaries are within every limit. -/
theorem Body.flat : ∀ {ts : List Token} {es : List Entry}, Body 0 0 ts es → Body limit 0 ts es
  | _, _, .nil => .nil
  | _, _, .spare hts => .spare hts.flat
  | _, _, .cons hss hts => .cons hss.flat hts.flat

end Grammar

namespace Writer

open Entry

/-- What can be written of entries comes back under every limit that they are within. -/
theorem restores_of_depth {setup : Setup} (hmode : setup.settings.mode = .retain) {es : List Entry}
    (hes : AllWritable es)
    (hdepth : 0 < depthOf es → (depthOf es : Int) ≤ setup.settings.maxNesting) (name : String)
    (h : Heading) : Restores setup name h es := by
  obtain ⟨ts, hts, hss⟩ := lex_write hes h
  have hbody : ∃ es', Grammar.Body setup.settings.maxNesting 0 ts es' ∧
      unlinedAll es' = unlinedAll es := by
    by_cases hpos : 0 < depthOf es
    · exact Grammar.body_of_symbols hes (by simpa using hdepth hpos) hss
    · have hflat : ∃ es', Grammar.Body 0 0 ts es' ∧ unlinedAll es' = unlinedAll es :=
        Grammar.body_of_symbols hes (by omega) hss
      obtain ⟨es', hbody, hes'⟩ := hflat
      exact ⟨es', hbody.flat, hes'⟩
  obtain ⟨es', hbody, hes'⟩ := hbody
  refine ⟨lineAfter 0 ts, es', ?_, hes'⟩
  rw [Reader.ofText, ofText_eq_ofTokens hts]
  exact Grammar.Document.read hmode name (.closed hbody)

end Writer

namespace Reader

open Entry

/-- Dictionaries nest no deeper than the limit, unless the read copies entries to where they do; and
what can be written of them is read back under the limit. -/
theorem depth_of_read {setup : Setup} {i : Input} {h : Heading} {es : List Entry}
    (hread : (read setup i).1 = .ok (.dictionary h es))
    (hcopies : ¬setup.ComesTo (Guard.deeper setup.settings.maxNesting) i) :
    (0 < depthOf es → (depthOf es : Int) ≤ setup.settings.maxNesting) ∧
      ∀ setup' : Setup, setup'.settings.mode = .retain →
        setup'.settings.maxNesting = setup.settings.maxNesting → AllWritable es →
          ∀ name, Writer.Restores setup' name h es := by
  have hknows : (Regime.nested setup).Knows i :=
    ⟨fun _ _ => trivial, fun _ _ => trivial, trivial⟩
  have hnested := Regime.read (Regime.expands_nested setup) hknows hcopies
  rw [hread] at hnested
  obtain ⟨h', es', heq, hes⟩ | _ := hnested
  cases heq
  have hdepth := forall_within_iff.mp hes
  exact ⟨hdepth, fun setup' hmode hlimit hw name =>
    Writer.restores_of_depth hmode hw (hlimit ▸ hdepth) name h⟩

/-- A setup that allows dictionaries to nest as deep as the limit. -/
def nestingSetup (limit : Int) : Setup :=
  { bareSetup with settings := { bareSetup.settings with maxNesting := limit } }

/-- Tokens of a dictionary `a` and of a dictionary `b` with a copy `c` of it. -/
def copyTokens : List Token :=
  [⟨.word "a", 1⟩, ⟨.opener .brace, 1⟩, ⟨.closer .brace, 1⟩, ⟨.word "b", 1⟩, ⟨.opener .brace, 1⟩,
    ⟨.word "c", 1⟩, ⟨.reference "a", 1⟩, ⟨.terminator, 1⟩, ⟨.closer .brace, 1⟩]

/-- What is made of them. -/
def copied : List Entry :=
  [.dictionary ⟨"a", false, 1, 1⟩ [], .dictionary ⟨"b", false, 1, 1⟩ [.dictionary ⟨"c", false, 1, 1⟩ []]]

/-- A copy within the limit. -/
theorem depth_of_copied : ∃ h es, (read (nestingSetup 2) (.ofTokens "t" copyTokens)).1 =
      .ok (.dictionary h es) ∧ 0 < depthOf es ∧
    (depthOf es : Int) ≤ (nestingSetup 2).settings.maxNesting := by
  have hread : (read (nestingSetup 2) (.ofTokens "t" copyTokens)).1 =
      .ok (.dictionary ⟨"t", false, 1, 1⟩ copied) := by cbv
  have hcopies : ¬(nestingSetup 2).ComesTo (Guard.deeper (nestingSetup 2).settings.maxNesting)
      (.ofTokens "t" copyTokens) := by
    have hguarded : (Guarded.read (Guard.deeper 2) (nestingSetup 2) (.ofTokens "t" copyTokens)).1 =
      .ok (.dictionary ⟨"t", false, 1, 1⟩ copied) := by cbv
    rw [Setup.ComesTo]
    exact fun h => by cases hguarded.symm.trans h
  exact ⟨_, _, hread, by decide, (depth_of_read hread hcopies).1 (by decide)⟩

/-- A copy of a dictionary in a dictionary, where one level is allowed. -/
theorem depth_of_copy : ¬∀ (setup : Setup) (text : String) (h : Heading) (es : List Entry),
    (ofText setup text).1 = .ok (.dictionary h es) →
      (depthOf es : Int) ≤ setup.settings.maxNesting := by
  intro hall
  have hread : (read (nestingSetup 1) (.ofTokens "<inline>" copyTokens)).1 =
      .ok (.dictionary ⟨"<inline>", false, 1, 1⟩ copied) := by cbv
  have hlex : Lexer.lex 1 "a{}b{c $a;}".toList = ⟨copyTokens, none⟩ :=
    Lexer.lex_of_lexWithin (n := 10) rfl
  rw [← Writer.ofText_eq_ofTokens hlex, ← ofText] at hread
  have hdepth := hall _ _ _ _ hread
  contradiction

end Reader

end CaseDict
