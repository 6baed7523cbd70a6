import CaseDict.Proofs.Alongside
import CaseDict.Proofs.Alternatives
import CaseDict.Proofs.Located
/-! # Redefinitions that are ignored

In the mode `protect` a statement has no influence if the dictionary, or the block, that it stands
in holds its keyword already (`Reader.ofText_ignored`), in the text or in a file that it includes.
It is not enough that the dictionary around the block holds it: in the block the statement is new
then, and references behind it find it there (`Reader.not_ofText_ignored`). -/

namespace CaseDict

open Expansion Statement Entry Grammar Lexer

variable {setup : Setup} {files : Files} {K : Token → Prop} {budget n : Nat}
  {name text text' : String} {closing : Option Heading} {stops : List String} {fault : Option Failure} {s : ReadState}

/-! ### One statement -/

/-- A redefinition in the mode `protect` changes nothing. -/
theorem exec_place_ignored {e : Entry} (hs : s.Keeps .protect)
    (hheld : e.keyword ∈ s.scope.keywords) : exec (place e) s = (.ok [], s) := by
  obtain ⟨old, hold⟩ : ∃ old, newest? e.keyword s.scope.entries = some old :=
    Option.ne_none_iff_exists'.mp fun h => newest?_eq_none.mp h hheld
  obtain ⟨scope, mode, log⟩ := s
  obtain rfl : mode = .protect := hs.mode
  rw [exec_place_carries hs.carries, Entry.place, hold]
  dsimp only [InputMode.placement, Heading.ignored]
  rw [hs.carries.refill_entries, if_neg Bool.false_ne_true, List.append_nil]

/-- A primitive entry that redefines a keyword is read for nothing. -/
theorem agree_ignored {ss post vs : List Token} {h : Heading} (hs : s.Keeps .protect)
    (hss : Grammar.Statement setup.settings.maxNesting n ss (.primitive h vs))
    (hheld : h.keyword ∈ s.scope.keywords) (hpost : ∀ t ∈ post.head?, 0 ≤ t.line) (line : Int) :
    Agree (reading setup budget n closing stops ⟨name, ss ++ post, fault, line⟩ s)
      (reading setup budget n closing stops ⟨name, post, fault, line⟩ s) := by
  have hmake : exec (makeAll [.primitive h vs]) s = (.ok (), s) := by
    rw [makeAll, make, exec_bind, exec_pure]
    dsimp only
    rw [exec_bind, exec_place_ignored (e := .primitive h vs) hs hheld]
    rfl
  rw [reading, hss.makes, hmake]
  exact agree_line hpost _ _

/-- The statements of a body are read to the state that making their entries leads to. -/
theorem ReadsTo.of_body {ts : List Token} {es : List Entry} {u : ReadState}
    (hnested : Token.WellNested ts) (h : Body setup.settings.maxNesting n ts es)
    (hmake : exec (makeAll es) s = (.ok (), u)) : ReadsTo setup budget n name ts s u where
  nested := hnested
  reads line := by
    refine ⟨some .endIf, ⟨name, [], none, lineAfter (lineAfter line ts) [.endIf]⟩,
      outcome_eq_ok.mp ?_⟩
    rw [h.makes, hmake]
    exact reading_stop rfl

/-- A word that is a switch is a condition. -/
theorem Opens.of_switch {w : String} {taken : Bool} (hw : Switch.ofWord w = some taken)
    (l l' : Int) : Opens setup budget name ⟨.directive Directive.ifTrue.name, l⟩ taken s s.log .ifTrue
      [⟨.word w, l'⟩] :=
  .ifTrue rfl (fun _ => (gives_argument_word rfl).mpr ⟨rfl, rfl, rfl⟩) hw

/-! ### In the text and in files -/

/-- The directive includes a file. -/
def Token.Includes (r : Registry) (t : Token) : Prop :=
  ∃ x optional, t.symbol = .directive x ∧ r.find? x = some (.includeFile optional)

/-- An inclusion does not end a branch. -/
theorem Token.Includes.isDirectiveIn {t : Token} (ht : t.Includes .standard)
    (hstops : stops ⊆ branchEnds) : t.symbol.isDirectiveIn stops = false := by
  rw [Bool.eq_false_iff]
  intro hstop
  obtain ⟨x, optional, hx, hd⟩ := ht
  have hends := Symbol.isDirectiveIn_mono hstops hstop
  rw [hx] at hends
  have hmem : x ∈ branchEnds := List.contains_iff_mem.mp hends
  simp only [branchEnds, List.mem_cons, List.not_mem_nil, or_false] at hmem
  rcases hmem with rfl | rfl <;> cases hd

/-- The text `text'`, of which the lines are those of `text`, lacks a primitive entry, in the text
or in a file that it includes, and the dictionary or block that the entry stands in holds its keyword
already. The other tokens satisfy `K`, and `files` hold the files that lack the entry. -/
inductive Ignores (setup : Setup) (files : Files) (K : Token → Prop) :
    (name text text' : String) → (budget n : Nat) → ReadState → Prop
  | statement {name text text' : String} {budget n budget' n' : Nat} {s t : ReadState}
      {pre ss post vs : List Token} {fault : Option LexFault} {h : Heading}
      (htext : lex 1 text.toList = ⟨pre ++ (ss ++ post), fault⟩)
      (htext' : lex 1 text'.toList = ⟨pre ++ post, fault⟩)
      (hcomes : Comes setup name budget' n' t budget n pre s)
      (hss : Grammar.Statement setup.settings.maxNesting n' ss (.primitive h vs))
      (hheld : h.keyword ∈ t.scope.keywords) (hknown : ∀ u ∈ pre ++ post, K u) :
      Ignores setup files K name text text' budget n s
  | file {name text inner inner' : String} {budget n budget' n' : Nat} {s t : ReadState}
      {pre post : List Token} {own argument : Token} {x : String} {optional : Bool} {p : Path}
      {log : List Event} {fault : Option LexFault}
      (htext : lex 1 text.toList = ⟨pre ++ own :: argument :: post, fault⟩)
      (hcomes : Comes setup name (budget' + 1) n' t budget n pre s)
      (hown : own.symbol = .directive x)
      (hd : setup.registry.find? x = some (.includeFile optional))
      (hfound : ∀ line, outcome (expanding setup fun c => locate c optional own
          ⟨name, argument :: post, fault.map (·.failure name), line⟩) t =
        (.ok (some p, ⟨name, post, fault.map (·.failure name), lineAfter line [argument]⟩),
          { t with log }))
      (hinner : setup.files.readText p = .ok inner) (hinner' : files.readText p = .ok inner')
      (hignores : Ignores setup files K p.text inner inner' budget' n'
        ⟨.staged [] t.scope, t.mode, log⟩)
      (hknown : ∀ u ∈ pre ++ argument :: post, K u) :
      Ignores setup files K name text text budget n s

theorem LexFault.within_failure (name : String) (f : LexFault) :
    (f.failure name).within name = f.failure name := by
  cases f <;> rfl

theorem Input.ofText_eq {ts : List Token} {fault : Option LexFault}
    (h : lex 1 text.toList = ⟨ts, fault⟩) (name : String) :
    Input.ofText name text = ⟨name, ts, fault.map (·.failure name), 0⟩ := by
  rw [Input.ofText, h]

/-- Whatever files it holds, an inclusion finds the same one. -/
theorem found_alongside {m : InputMode} {t : Token} {i j : Input} {optional : Bool} {p : Path}
    {log : List Event} (C : setup.Alongside files K m) (hs : s.Keeps m) (hi : ∀ t ∈ i.tokens, K t)
    (hfound : outcome (expanding setup fun c => locate c optional t i) s =
      (.ok (some p, j), { s with log })) :
    outcome (expanding (setup.holding files) fun c => locate c optional t i) s =
        (.ok (some p, j), { s with log }) ∧ ∀ t ∈ j.tokens, K t := by
  have hfollows : Follows (Link.same.sharing Token.AllLiteral m.Both)
      (expanding setup fun c => locate c optional t i)
      (expanding (setup.holding files) fun c => locate c optional t i)
      (Leaves (.only K) (Same fun _ => True)) :=
    C.expanding (x := ()) fun frames frames' ha => by
      let c : Context := ⟨setup, frames⟩
      let c' : Context := ⟨setup.holding files, frames'⟩
      have hsetups : c.setup.Alike .same (.only K) c'.setup := C.setups
      exact Follows.locate hsetups ha optional t ⟨hi, fun _ _ => trivial⟩
  obtain ⟨hconcur, hleaves⟩ := hs.concur hfollows
  rw [hfound] at hconcur
  have heq := hconcur.eq_of_ok
  exact ⟨heq, (hleaves (some p) j (by rw [heq])).2.1⟩

/-- Inclusions of files that come to the same come to the same. -/
theorem meeting_found {m : InputMode} {t : Token} {i j : Input} {x inner inner' : String}
    {optional : Bool} {p : Path} {log : List Event} (C : setup.Alongside files K m) (hs : s.Keeps m)
    (hi : ∀ t ∈ i.tokens, K t) (ht : t.symbol = .directive x)
    (hd : setup.registry.find? x = some (.includeFile optional))
    (hfound : outcome (expanding setup fun c => locate c optional t i) s =
      (.ok (some p, j), { s with log }))
    (hinner : setup.files.readText p = .ok inner) (hinner' : files.readText p = .ok inner')
    (haccord : Accord K m
      (reading setup budget n none [] (.ofText p.text inner) ⟨.staged [] s.scope, s.mode, log⟩)
      (reading (setup.holding files) budget n none [] (.ofText p.text inner')
        ⟨.staged [] s.scope, s.mode, log⟩)) :
    Meeting K m (outcome (runDirective setup (budget + 1) n t i) s)
      (outcome (runDirective (setup.holding files) (budget + 1) n t i) s) := by
  obtain ⟨hfound', hj⟩ := found_alongside C hs hi hfound
  obtain ⟨hagree, hleaves⟩ := haccord
  have hd' : (setup.holding files).registry.find? x = some (.includeFile optional) := hd
  have hinner'' : (setup.holding files).files.readText p = .ok inner' := hinner'
  unfold reading at hagree hleaves
  rw [outcome_found budget n ht hd hinner hfound, outcome_found budget n ht hd' hinner'' hfound']
  generalize outcome (readEntries setup budget _ n none [] (.ofText p.text inner)) _ = q,
    outcome (readEntries (setup.holding files) budget _ n none [] (.ofText p.text inner')) _ = q'
      at hagree hleaves ⊢
  have hleft {u : ReadState} (hu : u.Keeps m) : Leaving K m (AllCarry Token.AllLiteral)
      (.ok ((Follows.leaveBlock u).1, j), (Follows.leaveBlock u).2) := by
    obtain ⟨hes, hbelow⟩ := hu.leaveBlock
    rintro es k h
    cases h
    exact ⟨hes, hj, hbelow⟩
  cases hagree with
  | failed => exact ⟨.failed _ _ _, .error⟩
  | same =>
    obtain ⟨f | ⟨a, k⟩, u⟩ := q
    · exact ⟨.failed _ _ _, .error⟩
    · exact ⟨.same _, hleft (hleaves a k rfl).2.2⟩
  | ended source l l' u => exact ⟨.same _, hleft (hleaves none _ rfl).2.2⟩

/-- **What is ignored has no influence on a read.** -/
theorem Ignores.accord (C : setup.Alongside files K .protect) (hend : K .endIf)
    (hregistry : setup.registry = .standard) (h : Ignores setup files K name text text' budget n s)
    (hs : s.Keeps .protect) {x : Scope.Kind} (hrel : Relined.Rel x s s) (closing : Option Heading)
    {stops : List String} (hstops : stops ⊆ branchEnds) :
    Accord K .protect (reading setup budget n closing stops (.ofText name text) s)
      (reading (setup.holding files) budget n closing stops (.ofText name text') s) := by
  have hwithin (name : String) (fault : Option LexFault) :
      ∀ f ∈ fault.map (·.failure name), f.within name = f := by
    intro f hf
    obtain ⟨f, -, rfl⟩ := Option.mem_map.mp hf
    exact LexFault.within_failure name f
  have hlines {text : String} {ts : List Token} {fault : Option LexFault}
      (h : lex 1 text.toList = ⟨ts, fault⟩) : ∀ t ∈ ts, 0 ≤ t.line := by
    have hle : ∀ t ∈ (lex 1 text.toList).tokens, 1 ≤ t.line := (lex_lines (Int.le_refl 1)).1
    rw [h] at hle
    exact fun t ht => le_trans (by decide) (hle t ht)
  induction h generalizing x closing stops with
  | @statement name _ _ _ _ _ _ s t pre ss post vs fault h htext htext' hcomes hss hheld hknown =>
    obtain ⟨hpre, hpost⟩ := List.forall_mem_append.mp hknown
    obtain ⟨hlpre, hlpost⟩ := List.forall_mem_append.mp (hlines htext')
    have hhead : ∀ t ∈ post.head?, 0 ≤ t.line := fun t ht => hlpost t (List.mem_of_mem_head? ht)
    rw [Input.ofText_eq htext, Input.ofText_eq htext']
    refine hcomes.accord C hend hregistry (fun t ht => ⟨hpre t ht, hlpre t ht⟩) hs hrel
      (hwithin name fault) hhead (fun y ht _ line closing stops _ => ?_) 0 closing hstops
    exact (C.accord ht _ _ closing stops hpost).between (agree_ignored ht hss hheld hhead line)
      (.same _)
  | @file name text inner inner' _ _ _ _ s t pre post own argument _ _ _ log fault htext hcomes
      hown hd hfound hinner hinner' hignores hknown ih =>
    obtain ⟨hpre, hpost⟩ := List.forall_mem_append.mp hknown
    obtain ⟨hlpre, hlpost⟩ := List.forall_mem_append.mp (hlines htext)
    have hhead : ∀ t ∈ (own :: argument :: post).head?, 0 ≤ t.line :=
      fun t ht => hlpost t (List.mem_of_mem_head? ht)
    rw [Input.ofText_eq htext]
    refine hcomes.accord C hend hregistry (fun t ht => ⟨hpre t ht, hlpre t ht⟩) hs hrel
      (hwithin name fault) hhead (fun y ht hrel line closing stops hstops => ?_) 0 closing hstops
    have hown' : own.Includes .standard := ⟨_, _, hown, hregistry ▸ hd⟩
    refine accord_directive C hown (hown'.isDirectiveIn hstops) ?_
    exact meeting_found C ht hpost hown hd (hfound _) hinner hinner'
      (ih (ht.block log) ⟨.block rfl hrel.1, hrel.2⟩ none (List.nil_subset _))

/-! ### Whole reads -/

/-- The files that a text may be read under, where the tokens that are read satisfy `K`: those of
the setup; or, if no more files are included, files that stand at the same paths. -/
inductive Setup.Unaffected (setup : Setup) : Files → (Token → Prop) → Prop
  | same : Unaffected setup setup.files fun _ => True
  | other {files : Files} (hcurrent : files.current = setup.files.current)
      (hfile : ∀ p, files.isFile p = setup.files.isFile p)
      (henvironment : ∀ name value, setup.settings.environment.lookup name = some value →
        ∀ t ∈ (lex 1 value.toList).tokens, ¬t.Includes setup.registry) :
      Unaffected setup files fun t => ¬t.Includes setup.registry

/-- Reads take the same course without a change of the mode under files that do not affect them. -/
theorem Setup.Unaffected.alongside {m : InputMode} (h : setup.Unaffected files K)
    (hkeeps : setup.KeepsMode text) :
    setup.Alongside files (fun t => ¬t.ChangesMode setup.registry ∧ K t) m := by
  have hcurrent : setup.files.current = files.current := by
    cases h with
    | same => rfl
    | other hcurrent => exact hcurrent.symm
  have hfile (p : Path) : setup.files.isFile p = files.isFile p := by
    cases h with
    | same => rfl
    | other _ hfile => exact (hfile p).symm
  have hplace (e : Entry) (he : e.Carries Token.AllLiteral) :
      Follows (Link.same.sharing Token.AllLiteral m.Both) (place e) (place e) Any :=
    .placing (fun _ _ ⟨hm, hm'⟩ => hm.trans hm'.symm) he
  refine .of_place Link.stops_never trivial ?_ (.inl rfl) (fun _ _ hf => hf.elim)
    (fun _ _ _ => trivial) (fun frames hf => ?_) hplace (fun es hes => ?_) fun t x ht hx hd => ?_
  · exact {
      directive := fun _ _ _ => .refl (fun _ h => ⟨rfl, Registry.find?_of_get h⟩) fun _ _ => trivial
      includes := fun {t x optional} ht hx hd => by
        refine ⟨Vocabulary.whole_literal, fun p => ?_⟩
        cases h with
        | same =>
          exact .refl (fun content hp => .inl ⟨rfl, fun t ht => ⟨hkeeps _ (.file hp) t ht, trivial⟩,
            fun _ _ => trivial⟩) fun _ _ => trivial
        | other => exact absurd ⟨x, optional, hx, hd⟩ ht.2
      current := hcurrent
      isFile := hfile
      paths := rfl
      depth := .inl rfl
      report := fun _ => .changing (fun _ _ h => h ▸ rfl) fun _ ha => by contradiction
      shared := fun _ _ => trivial }
  · refine Vocabulary.alike_literal (fun _ _ => trivial) hf fun x value line ts hvalue hts t ht =>
      ⟨hkeeps.environment hvalue hts t ht, ?_⟩
    cases h with
    | same => trivial
    | other _ _ henvironment =>
      obtain ⟨us, hlex, rfl⟩ := Surroundings.environmentTokens_eq_ok hts
      have hus := henvironment _ _ (Surroundings.lookup_of_environmentText? hvalue)
      rw [hlex] at hus
      obtain ⟨u, hu, rfl⟩ := List.mem_map.mp ht
      exact hus u hu
  · refine .placingAll ?_ (fun _ => trivial) rfl hplace hes
    rintro mode mode' ⟨rfl, rfl⟩
    rfl
  · exact absurd ⟨x, hx, hd⟩ ht.1

/-- Tokens of texts that keep the mode do not change it. -/
theorem Ignores.keeping {whole : String} (hkeeps : setup.KeepsMode whole)
    (h : Ignores setup files K name text text' budget n s) (htext : setup.Provides whole text) :
    Ignores setup files (fun t => ¬t.ChangesMode setup.registry ∧ K t) name text text' budget n
      s := by
  induction h with
  | @statement name text _ _ _ _ _ _ _ pre ss post _ _ _ hlex hlex' hcomes hss hheld hknown =>
    have htokens := hkeeps text htext
    rw [hlex] at htokens
    refine .statement hlex hlex' hcomes hss hheld fun u hu => ⟨htokens u ?_, hknown u hu⟩
    rcases List.mem_append.mp hu with hu | hu
    · exact List.mem_append_left _ hu
    · exact List.mem_append_right _ (List.mem_append_right _ hu)
  | @file name text _ _ _ _ _ _ _ _ pre post _ _ _ _ _ _ _ hlex hcomes hown hd hfound hinner
      hinner' _ hknown ih =>
    have htokens := hkeeps text htext
    rw [hlex] at htokens
    refine .file hlex hcomes hown hd hfound hinner hinner' (ih (.file hinner)) fun u hu =>
      ⟨htokens u ?_, hknown u hu⟩
    rcases List.mem_append.mp hu with hu | hu
    · exact List.mem_append_left _ hu
    · exact List.mem_append_right _ (List.mem_cons_of_mem _ hu)

namespace Reader

/-- Texts that differ in their lines only give the same up to lines. -/
theorem yields_relined (hregistry : setup.registry = .standard) {i i' : Input}
    (hi : Relined.Inputs i i') : Yields (read setup i) (read setup i') := by
  intro e he
  obtain ⟨a, j, u, hg, rfl⟩ := read_eq_ok.mp he
  have hstart : Relined.Rel .dictionary (start setup) (start setup) :=
    ⟨.dictionary rfl .nil, rfl, trivial⟩
  obtain ⟨a', j', u', hg', -, -, hu⟩ :=
    Comparison.gives_on (C := Relined.comparison hregistry) hi hstart hg
  refine ⟨_, read_eq_ok.mpr ⟨a', j', u', hg', rfl⟩, ?_⟩
  have hes := hu.1.entries
  rw [Framing.membersOf_relined] at hes
  rw [hi.name]
  exact Entry.relined_iff.mp (.dictionary rfl hes)

theorem alike_relined (hregistry : setup.registry = .standard) {text text' : String}
    (h : (Tail.ofText name 1 text.toList).Like (Tail.ofText name 1 text'.toList)) :
    Alike (ofText setup text name) (ofText setup text' name) :=
  .of_yields (yields_relined hregistry (h.behind .nil name 0 0))
    (yields_relined hregistry (h.symm.behind .nil name 0 0))

/-- Reads that come to the same give the same entries, or fail with the same error. -/
theorem alike_of_agree {i i' : Input} {setup' : Setup} (hname : i.name = i'.name)
    (h : Agree (reading setup (setup.settings.budget 0) 0 none [] i (start setup))
      (reading setup' (setup'.settings.budget 0) 0 none [] i' (start setup'))) :
    (read setup i).1.map Entry.inner? = (read setup' i').1.map Entry.inner? ∧
      Alike (read setup i) (read setup' i') := by
  have hreading (setup : Setup) (i : Input) :
      outcome (entries setup 0 0 none [] i) ⟨.fresh [] [], setup.settings.mode, []⟩ =
        reading setup (setup.settings.budget 0) 0 none [] i (start setup) := rfl
  unfold Alike
  rw [read_eq_outcome, read_eq_outcome, hreading, hreading, hname]
  generalize reading setup (setup.settings.budget 0) 0 none [] i (start setup) = p,
    reading setup' (setup'.settings.budget 0) 0 none [] i' (start setup') = q at h ⊢
  cases h with
  | same => exact ⟨rfl, rfl⟩
  | failed => exact ⟨rfl, rfl⟩
  | ended => exact ⟨rfl, rfl⟩

/-- **In the mode `protect` a redefinition is ignored where it stands in the dictionary, or the
block, that holds its keyword.** The text, or the file, that lacks it is read to the same entries or to the
same error; and to the same entries up to lines, or to an error, if its lines are lacking too. -/
theorem ofText_ignored (hregistry : setup.registry = .standard)
    (hmode : setup.settings.mode = .protect) (hkeeps : setup.KeepsMode text)
    (hfiles : setup.Unaffected files K)
    (h : Ignores setup files K name text text' (setup.settings.budget 0) 0 (start setup)) :
    (ofText setup text name).1.map Entry.inner? =
        (ofText (setup.holding files) text' name).1.map Entry.inner? ∧
      ∀ text'', (Tail.ofText name 1 text'.toList).Like (Tail.ofText name 1 text''.toList) →
        Alike (ofText setup text name) (ofText (setup.holding files) text'' name) := by
  have hend : ¬Token.endIf.ChangesMode setup.registry ∧ K .endIf := by
    refine ⟨?_, ?_⟩
    · rintro ⟨x, hx, hd⟩
      rw [hregistry] at hd
      cases hx
      cases hd
    · cases hfiles with
      | same => trivial
      | other =>
        rintro ⟨x, optional, hx, hd⟩
        rw [hregistry] at hd
        cases hx
        cases hd
  have hstart : (start setup).Keeps .protect := ⟨hmode, Scope.carries_nil⟩
  obtain ⟨hagree, -⟩ := (h.keeping hkeeps .text).accord (hfiles.alongside hkeeps) hend hregistry
    hstart (x := .dictionary) ⟨.dictionary rfl .nil, rfl, trivial⟩ none (List.nil_subset _)
  obtain ⟨hsame, halike⟩ :
      (ofText setup text name).1.map Entry.inner? =
        (ofText (setup.holding files) text' name).1.map Entry.inner? ∧
      Alike (ofText setup text name) (ofText (setup.holding files) text' name) :=
    alike_of_agree rfl hagree
  have hregistry' : (setup.holding files).registry = .standard := hregistry
  exact ⟨hsame, fun text'' hlike => halike.trans (alike_relined hregistry' hlike)⟩

/-- A dictionary with a branch in which the text `t` stands behind an entry that it may redefine. -/
def around (t : String) : String := "w\x7b\n#if on\nk 1;\n" ++ t ++ "\nx $k;\n#endif\n\x7d\n"

/-- A setup in the mode `protect` with a file `f`. -/
def protecting (content : String) : Setup where
  files := { current := "/", find := fun path =>
    if path = "/f" then .file content.toUTF8 else .fault .missing }
  settings := { mode := .protect }

/-- A number under a keyword is a statement. -/
theorem statement_number (limit : Int) (n : Nat) (k : String) (x : Int) (line : Int) :
    Grammar.Statement limit n [⟨.word k, line⟩, ⟨.number (.int x), line⟩, ⟨.terminator, line⟩]
      (.primitive ⟨k, false, line, line⟩ [⟨.number (.int x), line⟩]) :=
  .value (k := ⟨.word k, line⟩) rfl ⟨by simp, by simp, .atom rfl .nil⟩

theorem lex_around : lex 1 (around "k 2;").toList = ⟨[⟨.word "w", 1⟩, ⟨.opener .brace, 1⟩,
    ⟨.directive "if", 2⟩, ⟨.word "on", 2⟩, ⟨.word "k", 3⟩, ⟨.number (.int 1), 3⟩,
    ⟨.terminator, 3⟩] ++
      ([⟨.word "k", 4⟩, ⟨.number (.int 2), 4⟩, ⟨.terminator, 4⟩] ++
        [⟨.word "x", 5⟩, ⟨.reference "k", 5⟩, ⟨.terminator, 5⟩, ⟨.directive "endif", 6⟩,
          ⟨.closer .brace, 7⟩]), none⟩ :=
  lex_of_lexWithin (n := 16) rfl

theorem lex_around_nothing : lex 1 (around "").toList = ⟨[⟨.word "w", 1⟩, ⟨.opener .brace, 1⟩,
    ⟨.directive "if", 2⟩, ⟨.word "on", 2⟩, ⟨.word "k", 3⟩, ⟨.number (.int 1), 3⟩,
    ⟨.terminator, 3⟩] ++
      [⟨.word "x", 5⟩, ⟨.reference "k", 5⟩, ⟨.terminator, 5⟩, ⟨.directive "endif", 6⟩,
        ⟨.closer .brace, 7⟩], none⟩ :=
  lex_of_lexWithin (n := 13) rfl

/-- Between the two entries the block holds the first. -/
theorem comes_around (content : String) : Comes (protecting content) "t" 63 1
    ⟨.staged [.primitive ⟨"k", false, 3, 3⟩ [⟨.number (.int 1), 3⟩]] (.fresh [] [⟨[], false⟩]),
      .protect, []⟩ 64 0 [⟨.word "w", 1⟩, ⟨.opener .brace, 1⟩, ⟨.directive "if", 2⟩, ⟨.word "on", 2⟩,
      ⟨.word "k", 3⟩, ⟨.number (.int 1), 3⟩, ⟨.terminator, 3⟩] (start (protecting content)) := by
  have hentry : Comes (protecting content) "t" 63 1 _ 63 1
      ([⟨.word "k", 3⟩, ⟨.number (.int 1), 3⟩, ⟨.terminator, 3⟩] ++ [])
      ⟨.staged [] (.fresh [] [⟨[], false⟩]), .protect, []⟩ :=
    .statements (.of_body rfl (.cons (statement_number _ _ "k" 1 3) .nil) rfl) .here
  have hbranch : Comes (protecting content) "t" 63 1 _ 64 1
      (⟨.directive "if", 2⟩ :: ([⟨.word "on", 2⟩] ++ _)) ⟨.fresh [] [⟨[], false⟩], .protect, []⟩ :=
    .taken (.of_switch rfl 2 2) hentry
  exact .dictionary (x := "w") (p := false) rfl (by simp) (show (0 : Int) < 64 by decide) hbranch

theorem lex_nothing : lex 1 "".toList = ⟨[], none⟩ := lex_of_lexWithin (n := 1) rfl

/-- None of the directives here changes the mode. -/
theorem keepsMode_standard : Registry.standard.find? "if" ≠ some .inputMode ∧
    Registry.standard.find? "endif" ≠ some .inputMode ∧
      Registry.standard.find? "include" ≠ some .inputMode := by decide

/-- No file changes the mode if `f` does not. -/
theorem keepsMode_protecting {content text : String}
    (hcontent : Text.ofOctets content.toUTF8 = content)
    (h : ∀ t ∈ (lex 1 content.toList).tokens, ¬t.ChangesMode .standard)
    (htext : ∀ t ∈ (lex 1 text.toList).tokens, ¬t.ChangesMode .standard) :
    (protecting content).KeepsMode text := by
  intro s hs
  cases hs with
  | text => exact htext
  | @file p _ hs =>
    unfold Files.readText at hs
    by_cases hp : p.text = "/f"
    · rw [show (protecting content).files.find p.text = .file content.toUTF8 from if_pos hp] at hs
      obtain rfl := hcontent.symm.trans (Except.ok.inj hs)
      exact h
    · rw [show (protecting content).files.find p.text = .fault .missing from if_neg hp] at hs
      contradiction
  | environment h => contradiction

theorem lex_included : lex 1 "k 1;\nk 2;\nx $k;\n".toList = ⟨[⟨.word "k", 1⟩, ⟨.number (.int 1), 1⟩,
    ⟨.terminator, 1⟩] ++ ([⟨.word "k", 2⟩, ⟨.number (.int 2), 2⟩, ⟨.terminator, 2⟩] ++
      [⟨.word "x", 3⟩, ⟨.reference "k", 3⟩, ⟨.terminator, 3⟩]), none⟩ :=
  lex_of_lexWithin (n := 10) rfl

theorem lex_included' : lex 1 "k 1;\n\nx $k;\n".toList = ⟨[⟨.word "k", 1⟩, ⟨.number (.int 1), 1⟩,
    ⟨.terminator, 1⟩] ++ [⟨.word "x", 3⟩, ⟨.reference "k", 3⟩, ⟨.terminator, 3⟩], none⟩ :=
  lex_of_lexWithin (n := 7) rfl

theorem lex_inclusion : lex 1 "#include f\n".toList =
    ⟨[] ++ ⟨.directive "include", 1⟩ :: ⟨.word "f", 1⟩ :: [], none⟩ := lex_of_lexWithin (n := 3) rfl

theorem found_protecting (content : String) (line : Int) :
    outcome (expanding (protecting content) fun c => locate c false ⟨.directive "include", 1⟩
        ⟨"t", [⟨.word "f", 1⟩], none, line⟩) (start (protecting content)) =
      (.ok (some (.ofString "/f"), ⟨"t", [], none, lineAfter line [⟨.word "f", 1⟩]⟩),
        { start (protecting content) with log := [.consulted "t", .consulted "/f"] }) := by
  cbv

theorem isFile_protecting (content content' : String) (p : Path) :
    (protecting content').files.isFile p = (protecting content).files.isFile p := by
  unfold Files.isFile protecting
  dsimp only
  by_cases hp : p.text = "/f"
  · rw [if_pos hp, if_pos hp]
  · rw [if_neg hp, if_neg hp]

/-- A redefinition in a branch, and one in a file. -/
theorem ofText_ignored_protecting :
    ((protecting "").KeepsMode (around "k 2;") ∧
      (ofText (protecting "") (around "k 2;") "t").1.isOk = true ∧
      (ofText (protecting "") (around "k 2;") "t").1.map Entry.inner? =
        (ofText (protecting "") (around "") "t").1.map Entry.inner?) ∧
    (protecting "k 1;\nk 2;\nx $k;\n").KeepsMode "#include f\n" ∧
      (ofText (protecting "k 1;\nk 2;\nx $k;\n") "#include f\n" "t").1.map Entry.inner? =
        (ofText (protecting "k 1;\n\nx $k;\n") "#include f\n" "t").1.map Entry.inner? := by
  have haround : (protecting "").KeepsMode (around "k 2;") := by
    refine keepsMode_protecting (by cbv) ?_ ?_
    · rw [lex_nothing]
      exact List.forall_mem_nil _
    · rw [lex_around]
      simp [Token.ChangesMode, keepsMode_standard]
  have hincluded : (protecting "k 1;\nk 2;\nx $k;\n").KeepsMode "#include f\n" := by
    refine keepsMode_protecting (by cbv) ?_ ?_
    · rw [lex_included]
      simp [Token.ChangesMode]
    · rw [lex_inclusion]
      simp [Token.ChangesMode, keepsMode_standard]
  have hblock : Ignores (protecting "") (protecting "").files (fun _ => True) "t" (around "k 2;")
      (around "") 64 0 (start (protecting "")) :=
    .statement lex_around lex_around_nothing (comes_around "") (statement_number _ _ "k" 2 4)
      (by simp [Scope.keywords, Scope.entries, Entry.keyword, Entry.head]) fun _ _ => trivial
  have hfiles : (protecting "k 1;\nk 2;\nx $k;\n").Unaffected (protecting "k 1;\n\nx $k;\n").files
      fun t => ¬t.Includes .standard :=
    .other rfl (isFile_protecting _ _) fun _ _ h => by contradiction
  have hfile : Ignores (protecting "k 1;\nk 2;\nx $k;\n") (protecting "k 1;\n\nx $k;\n").files
      (fun t => ¬t.Includes .standard) "t" "#include f\n" "#include f\n" 64 0
      (start (protecting "k 1;\nk 2;\nx $k;\n")) := by
    have hentry : Comes (protecting "k 1;\nk 2;\nx $k;\n") (Path.ofString "/f").text 63 0 _ 63 0
        ([⟨.word "k", 1⟩, ⟨.number (.int 1), 1⟩, ⟨.terminator, 1⟩] ++ [])
        ⟨.staged [] (.fresh [] []), .protect, [.consulted "t", .consulted "/f"]⟩ :=
      .statements (.of_body rfl (.cons (statement_number _ _ "k" 1 1) .nil) rfl) .here
    refine .file lex_inclusion .here rfl rfl (found_protecting _) (by cbv) (by cbv)
      (.statement lex_included lex_included' hentry (statement_number _ _ "k" 2 2)
        (by simp [Scope.keywords, Scope.entries, Entry.keyword, Entry.head]) ?_) ?_
    · simp [Token.Includes]
    · simp [Token.Includes]
  refine ⟨⟨haround, ?_, (ofText_ignored rfl rfl haround .same hblock).1⟩, hincluded,
    (ofText_ignored rfl rfl hincluded hfiles hfile).1⟩
  rw [ofText, Input.ofText, lex_around]
  cbv

/-- A branch in which the text `t` stands, in a dictionary with an entry that it may redefine. -/
def inBranch (t : String) : String := "k 1;#if on " ++ t ++ "x $k;#endif"

theorem lex_inBranch : lex 1 (inBranch "k 2;").toList = ⟨[⟨.word "k", 1⟩, ⟨.number (.int 1), 1⟩,
    ⟨.terminator, 1⟩, ⟨.directive "if", 1⟩, ⟨.word "on", 1⟩] ++
      ([⟨.word "k", 1⟩, ⟨.number (.int 2), 1⟩, ⟨.terminator, 1⟩] ++
        [⟨.word "x", 1⟩, ⟨.reference "k", 1⟩, ⟨.terminator, 1⟩, ⟨.directive "endif", 1⟩]), none⟩ :=
  lex_of_lexWithin (n := 13) rfl

theorem lex_inBranch_nothing : lex 1 (inBranch "").toList = ⟨[⟨.word "k", 1⟩, ⟨.number (.int 1), 1⟩,
    ⟨.terminator, 1⟩, ⟨.directive "if", 1⟩, ⟨.word "on", 1⟩] ++
      [⟨.word "x", 1⟩, ⟨.reference "k", 1⟩, ⟨.terminator, 1⟩, ⟨.directive "endif", 1⟩], none⟩ :=
  lex_of_lexWithin (n := 10) rfl

/-- It is not enough that the dictionary around a block holds the keyword: what the block brings is
ignored in the end, but references in the block find it. -/
theorem not_ofText_ignored : ∃ (pre ss post vs : List Token) (h : Heading) (t : ReadState)
    (below : Scope),
    (protecting "").settings.mode = .protect ∧ (protecting "").KeepsMode (inBranch "k 2;") ∧
    lex 1 (inBranch "k 2;").toList = ⟨pre ++ (ss ++ post), none⟩ ∧
    lex 1 (inBranch "").toList = ⟨pre ++ post, none⟩ ∧
    Grammar.Statement 64 0 ss (.primitive h vs) ∧
    Comes (protecting "") "t" 63 0 t 64 0 pre (start (protecting "")) ∧
    t.scope = .staged [] below ∧ h.keyword ∈ below.keywords ∧
    ¬Alike (ofText (protecting "") (inBranch "k 2;") "t")
      (ofText (protecting "") (inBranch "") "t") := by
  have hkeeps : (protecting "").KeepsMode (inBranch "k 2;") := by
    refine keepsMode_protecting (by cbv) ?_ ?_
    · rw [lex_nothing]
      exact List.forall_mem_nil _
    · rw [lex_inBranch]
      simp [Token.ChangesMode, keepsMode_standard]
  have hbranch : Comes (protecting "") "t" 63 0 _ 64 0
      (⟨.directive "if", 1⟩ :: ([⟨.word "on", 1⟩] ++ []))
      ⟨.fresh [.primitive ⟨"k", false, 1, 1⟩ [⟨.number (.int 1), 1⟩]] [], .protect, []⟩ :=
    .taken (.of_switch rfl 1 1) .here
  have hcomes : Comes (protecting "") "t" 63 0 _ 64 0
      ([⟨.word "k", 1⟩, ⟨.number (.int 1), 1⟩, ⟨.terminator, 1⟩] ++ _) (start (protecting "")) :=
    .statements (.of_body rfl (.cons (statement_number _ _ "k" 1 1) .nil) rfl) hbranch
  have hread : (ofText (protecting "") (inBranch "k 2;") "t").1 =
      .ok (.dictionary ⟨"t", false, 1, 1⟩ [.primitive ⟨"k", false, 1, 1⟩ [⟨.number (.int 1), 1⟩],
        .primitive ⟨"x", false, 1, 1⟩ [⟨.number (.int 2), 1⟩]]) := by
    rw [ofText, Input.ofText, lex_inBranch]
    cbv
  have hread' : (ofText (protecting "") (inBranch "") "t").1 =
      .ok (.dictionary ⟨"t", false, 1, 1⟩ [.primitive ⟨"k", false, 1, 1⟩ [⟨.number (.int 1), 1⟩],
        .primitive ⟨"x", false, 1, 1⟩ [⟨.number (.int 1), 1⟩]]) := by
    rw [ofText, Input.ofText, lex_inBranch_nothing]
    cbv
  refine ⟨_, _, _, _, _, _, _, rfl, hkeeps, lex_inBranch, lex_inBranch_nothing,
    statement_number 64 0 "k" 2 1, hcomes, rfl, ?_, ?_⟩
  · simp [Scope.keywords, Scope.entries, Entry.keyword, Entry.head]
  · rw [Alike, hread, hread']
    simp [Except.toOption, Entry.unlined, Entry.unlinedAll, Token.unlined]

end Reader

end CaseDict
