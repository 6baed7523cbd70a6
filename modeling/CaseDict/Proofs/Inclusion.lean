import CaseDict.Proofs.Atomic
import CaseDict.Proofs.Distinct
import CaseDict.Proofs.Hosting
import CaseDict.Proofs.Onward
import CaseDict.Proofs.Paths
import CaseDict.Proofs.Stored
import CaseDict.Proofs.Templates
/-! # Including a file

A text that holds nothing but the inclusion of a file is read into what the file is read into, if
one more level of expansion is allowed. This is so unless a name in the file leads out of the block
that the file is read into, or the file changes the input mode after it has defined a keyword twice
(`Reader.includes_iff`). -/

namespace CaseDict

open Expansion Statement Entry

/-- The text of the file `outer` is the inclusion of the file `inner`, which is beside it and has a
name of letters and digits. -/
structure Files.Includes (files : Files) (outer inner name : String) : Prop where
  ne : name ≠ ""
  alnum : ∀ c ∈ name.toList, Text.isAlnum c = true
  beside : Path.ofString inner = (Path.ofString outer).parent.join ⟨"", [name]⟩
  text : files.readText (Path.ofString outer) = .ok ("#include \"" ++ name ++ "\"")

/-! ### The text of an inclusion -/

/-- The tokens of an inclusion. -/
def Input.inclusion (source name : String) : Input :=
  ⟨source, [⟨.directive "include", 1⟩, ⟨.quoted name, 1⟩], none, 0⟩

section Name

variable {name : String} (h : ∀ c ∈ name.toList, Text.isAlnum c = true)

include h

theorem notMem_of_isAlnum {c : Char} (hc : Text.isAlnum c = false) : c ∉ name.toList :=
  fun hmem => Bool.false_ne_true (hc.symm.trans (h c hmem))

theorem escape_of_isAlnum : Symbol.escape name.toList = name.toList := by
  have hquote := notMem_of_isAlnum h (c := '"') (by decide)
  have hslash := notMem_of_isAlnum h (c := '\\') (by decide)
  generalize name.toList = cs at hquote hslash
  induction cs with
  | nil => rfl
  | cons c cs ih =>
    rw [List.mem_cons, not_or] at hquote hslash
    rw [Symbol.escape, if_neg (by simp [Ne.symm hquote.1, Ne.symm hslash.1]),
      ih hquote.2 hslash.2]

theorem lex_inclusion : Lexer.lex 1 ("#include \"" ++ name ++ "\"").toList =
    ⟨[⟨.directive "include", 1⟩, ⟨.quoted name, 1⟩], none⟩ := by
  have htext : ("#include \"" ++ name ++ "\"").toList =
      "#include".toList ++ ' ' :: ((Symbol.quoted name).text.toList ++ []) := by
    simp [Symbol.text, escape_of_isAlnum h]
  have hdirective (rest : List Char) : Lexer.nextStep 1 ("#include".toList ++ ' ' :: rest) =
      .ok (some ⟨⟨.directive "include", 1⟩, 1, ' ' :: rest⟩) := rfl
  have hblank (rest : List Char) : Lexer.nextStep 1 (' ' :: rest) = Lexer.nextStep 1 rest := by
    rw [Lexer.nextStep, Lexer.skipGap_blank (by decide), if_neg (by decide)]
    rfl
  have hquoted : Lexer.nextStep 1 ((Symbol.quoted name).text.toList ++ []) =
      .ok (some ⟨⟨.quoted name, 1⟩, _, []⟩) := Lexer.nextStep_quoted name []
  rw [htext, Lexer.lex_of_nextStep (hdirective _), Lexer.lex_of_nextStep ((hblank _).trans hquoted),
    Lexer.lex_nil]

theorem ofText_inclusion (source : String) :
    Input.ofText source ("#include \"" ++ name ++ "\"") = .inclusion source name := by
  rw [Input.ofText, lex_inclusion h]
  rfl

theorem ofString_of_isAlnum (hn : name ≠ "") : Path.ofString name = ⟨"", [name]⟩ := by
  have hcomponent : Path.IsComponent name := by
    refine ⟨hn, ?_, notMem_of_isAlnum h (by decide)⟩
    rintro rfl
    exact absurd (h '.' (by decide)) (by decide)
  have hnormal : Path.IsNormal ⟨"", [name]⟩ := ⟨.inl rfl, List.forall_mem_singleton.mpr hcomponent⟩
  have htext : Path.text ⟨"", [name]⟩ = name := by simp [Path.text]
  have hround := Path.ofString_text hnormal
  rwa [htext] at hround

end Name

/-! ### Reading an inclusion -/

theorem Files.isFile_of_readText {files : Files} {p : Path} {text : String}
    (h : files.readText p = .ok text) : files.isFile p = .ok true := by
  unfold Files.readText at h
  unfold Files.isFile
  split at h
  · next hf => rw [hf]
  · contradiction
  · contradiction

namespace Reader

/-- Reads a text in a block and places the entries of the block. -/
def staged (setup : Setup) (i : Input) : ReadM Unit := do
  let (_, es) ← inBlock (entries setup 1 0 none [] i)
  let _ ← placeAll es

end Reader

section Reading

variable {setup : Setup} {outer inner name text : String}
  (h : setup.files.Includes outer inner name)
  (ht : setup.files.readText (Path.ofString inner) = .ok text)

include h ht

/-- The file is found beside the text that includes it. -/
theorem exec_locate_inclusion (frames : List (Frame Entry)) (log : List Event) (line : Int) :
    ∃ rest log', exec (locate ⟨setup, frames⟩ false ⟨.directive "include", 1⟩
        ⟨(Path.ofString outer).text, [⟨.quoted name, 1⟩], none, line⟩) log =
      (.ok (some (Path.ofString inner), rest), log') ∧ rest.input.tokens = [] ∧
      rest.input.fault = none := by
  have hsource : Path.ofString (Path.ofString outer).text = Path.ofString outer :=
    Path.ofString_text (Path.isNormal_ofString outer)
  have hrelative : Path.isAbsolute ⟨"", [name]⟩ = false := rfl
  have hcandidates (log : List Event) : exec (candidates ⟨setup, frames⟩
      (Path.ofString outer).text ⟨"", [name]⟩) log =
        (.ok (Path.ofString inner ::
          (setup.settings.includePaths.map Path.ofString).map (·.join ⟨"", [name]⟩)),
          log ++ [.consulted (Path.ofString outer).text]) := by
    unfold candidates
    rw [hrelative, if_neg Bool.false_ne_true]
    dsimp only
    rw [exec_bind, report, exec_modify, hsource]
    dsimp only
    rw [exec_bind, exec_lift, Files.isFile_of_readText h.text]
    dsimp only
    rw [exec_pure, if_pos rfl, List.map_cons, ← h.beside]
  have hfirst (more : List Path) (log : List Event) :
      exec (firstFile ⟨setup, frames⟩ (Path.ofString inner :: more)) log =
        (.ok (some (Path.ofString inner)), log ++ [.consulted (Path.ofString inner).text]) := by
    rw [firstFile, exec_bind, report, exec_modify]
    dsimp only
    rw [exec_bind, exec_lift, Files.isFile_of_readText ht]
    rfl
  let i : Input := ⟨(Path.ofString outer).text, [⟨.quoted name, 1⟩], none, line⟩
  let rest : i.Less := ⟨i.after ⟨.quoted name, 1⟩ [], Input.size_after_lt rfl⟩
  have hnext : i.next = .ok (some (⟨.quoted name, 1⟩, rest)) := rfl
  have hexpect (what : String) : i.expect what = .ok (⟨.quoted name, 1⟩, rest) := by
    rw [Input.expect, hnext]
    rfl
  refine ⟨rest.toRest, log ++ [.consulted (Path.ofString outer).text] ++
    [.consulted (Path.ofString inner).text], ?_, rfl, rfl⟩
  unfold locate
  dsimp only
  rw [exec_bind, exec_lift, hexpect]
  dsimp only
  rw [exec_bind, exec_pure]
  dsimp only
  rw [exec_bind, exec_lift,
    expandText_of_notMem (notMem_of_isAlnum h.alnum (by decide))]
  dsimp only
  rw [exec_bind, ofString_of_isAlnum h.alnum h.ne, hcandidates]
  dsimp only
  rw [exec_bind, hfirst]
  rfl

/-- The directive brings the entries of the file. -/
theorem exec_inclusion (hd : setup.registry.find? "include" = some (.includeFile false))
    (budget : Nat) (line : Int) (s : ReadState) :
    ∃ rest log, rest.input.tokens = [] ∧ rest.input.fault = none ∧
      exec (runDirective setup (budget + 1) 0 ⟨.directive "include", 1⟩
        ⟨(Path.ofString outer).text, [⟨.quoted name, 1⟩], none, line⟩) s =
      match exec (inBlock (readEntries setup budget (runDirective setup budget) 0 none []
          (.ofText (Path.ofString inner).text text))) { s with log } with
        | (.ok (_, es), s') => (.ok (es, rest), s')
        | (.error f, s') => (.error f, s') := by
  obtain ⟨rest, log, hlocate, htokens, hfault⟩ :=
    exec_locate_inclusion h ht s.scope.frames s.log line
  refine ⟨rest, log, htokens, hfault, ?_⟩
  have hget (line : Int) (source : Option String) :
      setup.registry.get "include" line source = .ok (.includeFile false) := by
    rw [Registry.get, hd]
  have hopen (c : Context) (hc : c.setup = setup) (log : List Event) :
      exec (openFile c (Path.ofString inner)) log =
        (.ok (.ofText (Path.ofString inner).text text), log) := by
    rw [openFile, exec_bind, exec_lift, hc, ht]
    rfl
  unfold runDirective
  dsimp only [Symbol.value]
  rw [exec_bind, exec_lift, hget]
  dsimp only
  rw [exec_bind, exec_expanding, hlocate]
  dsimp only
  rw [exec_bind, exec_expanding, hopen _ rfl]
  dsimp only
  rw [exec_bind]
  rcases exec (inBlock (readEntries setup budget (runDirective setup budget) 0 none [] _))
    _ with ⟨_ | ⟨_, es⟩, s'⟩ <;> rfl

/-- What the including text is read into is what the file is read into in a block. -/
theorem exec_entries_inclusion (hd : setup.registry.find? "include" = some (.includeFile false))
    (hlimit : 1 ≤ setup.settings.maxExpansion) (s : ReadState) :
    ∃ log, Reader.readInto setup (.inclusion (Path.ofString outer).text name) s =
      (exec (Reader.staged setup (.ofText (Path.ofString inner).text text)) { s with log }).map
        (·.mapError (Failure.within (Path.ofString outer).text)) id := by
  have hbudget : setup.settings.budget 0 = setup.settings.budget 1 + 1 := by
    unfold Settings.budget
    omega
  obtain ⟨rest, log, htokens, hfault, hrun⟩ :=
    exec_inclusion h ht hd (setup.settings.budget 1) 1 s
  have hafter : (Input.inclusion (Path.ofString outer).text name).after ⟨.directive "include", 1⟩
      [⟨.quoted name, 1⟩] = ⟨(Path.ofString outer).text, [⟨.quoted name, 1⟩], none, 1⟩ := rfl
  refine ⟨log, ?_⟩
  rw [Reader.readInto_cons rfl, hafter, Reader.readBehind_directive rfl, hbudget, hrun,
    Reader.staged, exec_bind, Reader.entries]
  rcases exec (inBlock (readEntries setup _ (runDirective setup _) 0 none []
    (.ofText (Path.ofString inner).text text))) _ with ⟨_ | ⟨_, es⟩, s'⟩
  · rfl
  dsimp only
  rw [exec_bind]
  rcases exec (placeAll es) s' with ⟨_ | placed, s''⟩
  · rfl
  dsimp only
  rw [Reader.readInto_nil htokens, hfault]
  rfl

end Reading

/-! ### Placing what was included -/

section Placing

variable {es : List Entry} {s s' : ReadState}

theorem checkNew_of_nodup {known : List (String × Int)} (h : (es.map keyword).Nodup)
    (hk : ∀ e ∈ es, e.keyword ∉ known.map Prod.fst) : checkNew known es = .ok () := by
  induction es generalizing known with
  | nil => rfl
  | cons e es ih =>
    obtain ⟨he, hes⟩ := List.nodup_cons.mp h
    have hnew : known.lookup e.keyword = none := by
      refine List.lookup_eq_none_iff.mpr fun p hp => ?_
      have hne : e.keyword ≠ p.1 := fun heq =>
        hk e (List.mem_cons_self ..) (heq ▸ List.mem_map_of_mem hp)
      simpa using hne
    rw [checkNew, hnew]
    refine ih hes fun x hx => ?_
    rw [List.map_cons, List.mem_cons, not_or]
    refine ⟨fun heq => he ?_, hk x (List.mem_cons_of_mem _ hx)⟩
    have heq : x.keyword = e.keyword := heq
    exact heq ▸ List.mem_map_of_mem hx

/-- Unless redefinitions are retained, placing entries keeps the keywords distinct. -/
theorem nodup_placeEach {placed : List Entry} (hm : s.mode ≠ .retain)
    (hs : s.scope.Carries fun _ => True) (hn : s.scope.keywords.Nodup)
    (h : exec (placeEach es) s = (.ok placed, s')) : s'.scope.keywords.Nodup := by
  induction es generalizing s placed with
  | nil =>
    cases h
    exact hn
  | cons e es ih =>
    rw [placeEach, exec_bind, exec_place_carries hs] at h
    cases hp : e.place s.mode s.scope.entries with
    | error f =>
      rw [hp] at h
      cases h
    | ok p =>
      rw [hp] at h
      dsimp only at h
      rw [exec_bind] at h
      generalize hs' : ReadState.mk _ _ _ = left at h
      rcases hrest : exec (placeEach es) left with ⟨_ | more, s''⟩
      · rw [hrest] at h
        cases h
      · rw [hrest] at h
        cases h
        subst hs'
        refine ih ?_ ?_ ?_ hrest
        · exact hm
        · exact hs.refill fun _ _ _ _ => trivial
        · rw [Scope.keywords, hs.entries_refill]
          exact nodup_place hm hn hp

/-- Entries are all placed in an empty dictionary if redefinitions are retained or absent. -/
theorem placeAll_empty_iff (es : List Entry) {removed : List Removal}
    (hs : s.scope = .fresh [] [] removed) :
    (∃ placed s', exec (placeAll es) s = (.ok placed, s') ∧ s'.scope.entries = es) ↔
      s.mode = .retain ∨ (es.map keyword).Nodup := by
  have htarget : s.scope.IsTarget := hs ▸ trivial
  have hgains {s' : ReadState} (hg : s.scope.Gains es s'.scope) : s'.scope.entries = es := by
    rw [hs] at hg
    obtain ⟨scope, mode, log⟩ := s'
    cases hg
    rfl
  have hall : exec (placeAll es) s =
      if s.mode = .error then match checkNew (firstLines s.scope.entries) es with
        | .ok _ => exec (placeEach es) s
        | .error f => (.error f, s)
      else exec (placeEach es) s := by
    rw [placeAll, exec_bind, exec_get]
    dsimp only
    split
    · rw [exec_bind, exec_lift]
      cases checkNew (firstLines s.scope.entries) es <;> rfl
    · rfl
  constructor
  · rintro ⟨placed, s', h, rfl⟩
    refine (Decidable.em (s.mode = .retain)).imp_right fun hm => ?_
    have heach : exec (placeEach s'.scope.entries) s = (.ok placed, s') := by
      rw [hall] at h
      split at h
      · split at h
        · exact h
        · cases h
      · exact h
    have hnil : s.scope.keywords.Nodup := by
      rw [Scope.keywords, hs]
      exact List.nodup_nil
    exact nodup_placeEach hm (hs ▸ Scope.carries_nil) hnil heach
  · rintro (hm | hn)
    · obtain ⟨s', h, hg⟩ := exec_placeEach_retain es htarget hm
      refine ⟨es, s', ?_, hgains hg⟩
      rw [hall, if_neg (by rw [hm]; decide), h]
    · have hcheck (known : List (String × Int)) (hknown : known = firstLines s.scope.entries) :
          checkNew known es = .ok () := by
        refine checkNew_of_nodup hn fun e _ => ?_
        rw [hknown, hs]
        exact List.not_mem_nil
      obtain ⟨s', h, hg⟩ := exec_placeEach_checkNew htarget
        (by simp [firstLines, Scope.keywords]) (hcheck _ rfl)
      refine ⟨es, s', ?_, hgains hg⟩
      rw [hall, hcheck _ rfl, h]
      exact ite_self _

end Placing

/-! ### What an inclusion means -/

namespace Reader

/-- The input mode that reading the file ends in. -/
def finalMode (setup : Setup) (path : String) : InputMode :=
  match setup.files.readText (Path.ofString path) with
  | .ok text =>
    (exec (entries setup 0 0 none [] (.ofText (Path.ofString path).text text)) (start setup)).2.mode
  | .error _ => setup.settings.mode

/-- The setup with one more level of expansion. -/
abbrev deeper (setup : Setup) : Setup :=
  setup.limited (setup.settings.maxExpansion + 1) setup.settings.maxNesting

theorem ofFile_of_readText {setup : Setup} {path text : String}
    (ht : setup.files.readText (Path.ofString path) = .ok text) :
    (ofFile setup path).1 = (read setup (.ofText (Path.ofString path).text text)).1 := by
  unfold ofFile
  dsimp only
  rw [ht]

theorem readText_of_ofFile {setup : Setup} {path : String} {e : Entry}
    (h : (ofFile setup path).1 = .ok e) :
    ∃ text, setup.files.readText (Path.ofString path) = .ok text := by
  unfold ofFile at h
  dsimp only at h
  split at h
  · next text ht => exact ⟨text, ht⟩
  · contradiction

/-- A block of an empty dictionary is read into the entries that a dictionary of its own would get,
and then they are placed, unless a name leads out of the block. -/
theorem exec_staged {setup : Setup} {i : Input} {p : Taken (Option Token) i} {s : ReadState}
    (hlimit : 0 ≤ setup.settings.maxExpansion)
    (hx : exec (entries setup 0 0 none [] i) (start setup) = (.ok p, s)) (log : List Event) :
    (∃ f s', exec (staged (deeper setup) i) { start (deeper setup) with log } = (.error f, s') ∧
      f.IsRooted) ∨
    ∃ removed log', exec (staged (deeper setup) i) { start (deeper setup) with log } =
      exec (do let _ ← placeAll s.scope.entries) ⟨.fresh [] [] removed, s.mode, log'⟩ := by
  have hbudget : (deeper setup).settings.budget 1 = setup.settings.budget 0 := by
    simp only [Setup.limited, Settings.budget]
    omega
  obtain ⟨p', hx'⟩ := exec_entries_deeper (by omega) hbudget hx
  have hrel : (Framing.hosted.link Link.hosted (Same fun _ => True) .outermost).rel
      ⟨.staged [] (.fresh [] []), (start setup).mode, log⟩ (start setup) :=
    ⟨.outermost ⟨[], [], [], rfl, rfl, List.forall_mem_nil _⟩, ⟨rfl, trivial⟩, trivial⟩
  have hends := entries_hosted (deeper setup) 1 i hrel
  have hstart : ({ { start (deeper setup) with log } with
      scope := .staged [] { start (deeper setup) with log }.scope } : ReadState) =
    ⟨.staged [] (.fresh [] []), (start setup).mode, log⟩ := rfl
  rw [hx'] at hends
  rw [staged, exec_bind, exec_inBlock, hstart]
  generalize exec (entries (deeper setup) 1 0 none [] i)
    ⟨.staged [] (.fresh [] []), (start setup).mode, log⟩ = q at hends ⊢
  obtain ⟨r, ⟨scope, mode, log'⟩⟩ := q
  cases hends with
  | ok _ hs =>
    obtain ⟨hscope, hmode, -⟩ := hs
    cases hscope with
    | outermost hscope =>
      obtain ⟨es, removed, removed', rfl, hes, -⟩ := hscope
      obtain ⟨rfl, -⟩ := hmode
      refine .inr ⟨removed, log', ?_⟩
      rw [hes]
      rfl
  | parted hf => cases scope <;> exact .inl ⟨_, _, rfl, hf⟩

section Including

variable {setup : Setup} {outer inner name text : String} {es : List Entry}
  (h : setup.files.Includes outer inner name)

include h

theorem ofFile_inclusion :
    (ofFile setup outer).1 = (read setup (.inclusion (Path.ofString outer).text name)).1 := by
  rw [ofFile_of_readText h.text, ofText_inclusion h.alnum]

/-- Without a level of expansion no file is included. -/
theorem inclusion_tooDeep (hlimit : setup.settings.maxExpansion ≤ 0) :
    ∃ f, (ofFile setup outer).1 = .error f := by
  have hbudget : setup.settings.budget 0 = 0 := by
    unfold Settings.budget
    omega
  have hinner := read_inner? setup (.inclusion (Path.ofString outer).text name)
  rw [readInto_cons rfl, readBehind_directive rfl, hbudget, runDirective, exec_throw] at hinner
  rw [ofFile_inclusion h]
  cases hread : (read setup (.inclusion (Path.ofString outer).text name)).1 with
  | error f => exact ⟨f, rfl⟩
  | ok e =>
    rw [hread] at hinner
    cases hinner

/-- The entries that an inclusion brings are those that are placed after reading a block. -/
theorem ofFile_inner? (hd : setup.registry.find? "include" = some (.includeFile false))
    (hlimit : 1 ≤ setup.settings.maxExpansion)
    (ht : setup.files.readText (Path.ofString inner) = .ok text) :
    ∃ log, (ofFile setup outer).1.map inner? =
      match exec (staged setup (.ofText (Path.ofString inner).text text))
        { start setup with log } with
      | (.ok _, s) => .ok (some s.scope.entries)
      | (.error f, _) => .error (f.within (Path.ofString outer).text) := by
  obtain ⟨log, hrun⟩ := exec_entries_inclusion h ht hd hlimit (start setup)
  refine ⟨log, ?_⟩
  rw [ofFile_inclusion h, read_inner?]
  rw [hrun]
  rcases exec (staged setup _) _ with ⟨_ | _, s⟩ <;> rfl

/-- If one level of expansion is left, a name that leads out of the file may be looked up in vain;
otherwise the inclusion means what the file means if its entries can be placed. -/
theorem rooted_or_includes (hd : setup.registry.find? "include" = some (.includeFile false))
    (hlimit : 0 ≤ setup.settings.maxExpansion) {e : Entry} (he : (ofFile setup inner).1 = .ok e) :
    (∃ f, (ofFile (deeper setup) outer).1 = .error f ∧ f.IsRooted) ∨
    ((∃ e', (ofFile (deeper setup) outer).1 = .ok e' ∧ e'.inner? = e.inner?) ↔
      finalMode setup inner = .retain ∨ ∀ es, e.inner? = some es → (es.map keyword).Nodup) := by
  obtain ⟨text, ht⟩ := readText_of_ofFile he
  have hmore : 1 ≤ (deeper setup).settings.maxExpansion := by
    simp only [Setup.limited]
    omega
  have hdeeper : (deeper setup).files.Includes outer inner name := h
  obtain ⟨log, houter⟩ := ofFile_inner? hdeeper hd hmore ht
  have hinner := read_inner? setup (.ofText (Path.ofString inner).text text)
  rw [← ofFile_of_readText ht, he] at hinner
  have hfinal : finalMode setup inner = (exec (entries setup 0 0 none []
      (.ofText (Path.ofString inner).text text)) (start setup)).2.mode := by
    rw [finalMode, ht]
  rcases hx : exec (entries setup 0 0 none [] (.ofText (Path.ofString inner).text text))
    (start setup) with ⟨_ | p, s⟩
  · rw [readInto, hx] at hinner
    cases hinner
  rw [readInto, hx] at hinner
  rw [hx] at hfinal
  have hentries : e.inner? = some s.scope.entries := Except.ok.inj hinner
  rw [hentries, hfinal]
  rcases exec_staged hlimit hx log with ⟨f, s', hrun, hf⟩ | ⟨removed, log', hrun⟩
  · rw [hrun] at houter
    cases hread : (ofFile (deeper setup) outer).1 with
    | ok e' =>
      rw [hread] at houter
      cases houter
    | error f' =>
      rw [hread] at houter
      cases houter
      exact .inl ⟨_, rfl, hf.within _⟩
  · have hplace := placeAll_empty_iff s.scope.entries
      (s := ⟨.fresh [] [] removed, s.mode, log'⟩) rfl
    rw [hrun, exec_bind] at houter
    refine .inr ⟨?_, fun hkeys => ?_⟩
    · rintro ⟨e', he', hsame⟩
      rw [he', Except.map, hsame] at houter
      rcases hq : exec (placeAll s.scope.entries) _ with ⟨_ | placed, s'⟩ <;> rw [hq] at houter
      · cases houter
      · have hes : s.scope.entries = s'.scope.entries := Option.some.inj (Except.ok.inj houter)
        refine (hplace.mp ⟨placed, s', hq, hes.symm⟩).imp_right fun hn es hsome => ?_
        exact Option.some.inj hsome ▸ hn
    · obtain ⟨placed, s', hq, hes⟩ := hplace.mpr (hkeys.imp_right fun hn => hn _ rfl)
      rw [hq] at houter
      cases hread : (ofFile (deeper setup) outer).1 with
      | error f =>
        rw [hread] at houter
        cases houter
      | ok e' =>
        rw [hread] at houter
        have hsame : e'.inner? = some s'.scope.entries := Except.ok.inj houter
        exact ⟨e', rfl, hsame.trans (congrArg some hes)⟩

/-- **Including a file means what the file means**, with one more level of expansion, unless a name
that leads out of the file is looked up in vain, or the file changes the input mode after it has
defined a keyword twice. -/
theorem includes_iff (hd : setup.registry.find? "include" = some (.includeFile false)) {e : Entry}
    (he : (ofFile setup inner).1 = .ok e) :
    (∃ e', (ofFile (deeper setup) outer).1 = .ok e' ∧ e'.inner? = e.inner?) ↔
      0 ≤ setup.settings.maxExpansion ∧
      (∀ f, (ofFile (deeper setup) outer).1 = .error f → ¬f.IsRooted) ∧
      (finalMode setup inner = .retain ∨ ∀ es, e.inner? = some es → (es.map keyword).Nodup) := by
  by_cases hlimit : 0 ≤ setup.settings.maxExpansion
  · rcases rooted_or_includes h hd hlimit he with ⟨f, hf, hroot⟩ | hiff
    · refine ⟨fun hsame => ?_, fun hr => absurd hroot (hr.2.1 f hf)⟩
      obtain ⟨e', he', -⟩ := hsame
      cases he'.symm.trans hf
    · refine ⟨fun hsame => ⟨hlimit, fun f hf => ?_, hiff.mp hsame⟩, fun hr => hiff.mpr hr.2.2⟩
      obtain ⟨e', he', -⟩ := hsame
      cases he'.symm.trans hf
  · have hless : (deeper setup).settings.maxExpansion ≤ 0 := by
      simp only [Setup.limited]
      omega
    have hdeeper : (deeper setup).files.Includes outer inner name := h
    obtain ⟨f, hf⟩ := inclusion_tooDeep hdeeper hless
    refine ⟨fun hsame => ?_, fun hr => absurd hr.1 hlimit⟩
    obtain ⟨e', he', -⟩ := hsame
    cases he'.symm.trans hf

end Including

/-- Two files, of which `g` includes `f`. -/
def including (text : String) : Setup where
  files := { current := "/", find := fun path =>
    if path = "f" then .file text.toUTF8
    else if path = "g" then .file "#include \"f\"".toUTF8
    else .fault .missing }

theorem includes_including (text : String) : (including text).files.Includes "g" "f" "f" where
  ne := by decide
  alnum := by
    have hf : Text.isAlnum 'f' = true := by cbv
    exact List.forall_mem_singleton.mpr hf
  beside := by cbv
  text := by cbv

section Files

variable {text : String} {ts : List Token} (hlex : Lexer.lex 1 text.toList = ⟨ts, none⟩)
  (htext : Text.ofOctets text.toUTF8 = text)

include hlex htext

omit htext in
theorem ofText_of_lex (name : String) : Input.ofText name text = .ofTokens name ts := by
  rw [Input.ofText, hlex]
  rfl

theorem ofFile_included :
    (ofFile (including text) "f").1 = (read (including text) (.ofTokens "f" ts)).1 ∧
    finalMode (including text) "f" = (exec (entries (including text) 0 0 none [] (.ofTokens "f" ts))
      (start (including text))).2.mode := by
  have hname : (Path.ofString "f").text = "f" := by cbv
  have hread : (including text).files.readText (Path.ofString "f") = .ok text := by
    rw [Files.readText, hname]
    exact congrArg Except.ok htext
  rw [ofFile_of_readText hread, finalMode, hread, hname]
  dsimp only
  rw [ofText_of_lex hlex]
  exact ⟨rfl, rfl⟩

theorem ofFile_including : ∃ log, (ofFile (deeper (including text)) "g").1.map (fun _ => ()) =
    (exec (staged (deeper (including text)) (.ofTokens "f" ts))
      { start (deeper (including text)) with log }).1.mapError (Failure.within "g") := by
  have hname : (Path.ofString "f").text = "f" := by cbv
  have hsource : (Path.ofString "g").text = "g" := by cbv
  have hread : (deeper (including text)).files.readText (Path.ofString "f") = .ok text := by
    rw [Files.readText, hname]
    exact congrArg Except.ok htext
  have hdeeper : (deeper (including text)).files.Includes "g" "f" "f" := includes_including text
  obtain ⟨log, h⟩ := ofFile_inner? hdeeper rfl (show (1 : Int) ≤ 64 + 1 by decide) hread
  rw [hname, hsource, ofText_of_lex hlex] at h
  refine ⟨log, ?_⟩
  generalize (ofFile (deeper (including text)) "g").1 = r, exec (staged _ _) _ = q at h ⊢
  obtain ⟨_ | _, s⟩ := q <;> cases r
  · cases h
    rfl
  · cases h
  · cases h
  · rfl

end Files

/-- Two entries of one keyword, and references that do not lead out of the file. -/
def inwardText : String := "a 1;a 2;d\x7bb $a;e\x7bc $../b;\x7d\x7d"

/-- The tokens of that text. -/
def inward : List Token := [⟨.word "a", 1⟩, ⟨.number (.int 1), 1⟩, ⟨.terminator, 1⟩,
  ⟨.word "a", 1⟩, ⟨.number (.int 2), 1⟩, ⟨.terminator, 1⟩, ⟨.word "d", 1⟩, ⟨.opener .brace, 1⟩,
  ⟨.word "b", 1⟩, ⟨.reference "a", 1⟩, ⟨.terminator, 1⟩, ⟨.word "e", 1⟩, ⟨.opener .brace, 1⟩,
  ⟨.word "c", 1⟩, ⟨.reference "../b", 1⟩, ⟨.terminator, 1⟩, ⟨.closer .brace, 1⟩,
  ⟨.closer .brace, 1⟩]

theorem includes_inward : ∃ setup e, setup.files.Includes "g" "f" "f" ∧
    setup.registry.find? "include" = some (.includeFile false) ∧
    (ofFile setup "f").1 = .ok e ∧
    ∃ e', (ofFile (deeper setup) "g").1 = .ok e' ∧ e'.inner? = e.inner? := by
  have hlex : Lexer.lex 1 inwardText.toList = ⟨inward, none⟩ :=
    Lexer.lex_of_lexWithin (n := 30) (by cbv)
  have htext : Text.ofOctets inwardText.toUTF8 = inwardText := by cbv
  obtain ⟨hread, hmode⟩ := ofFile_included hlex htext
  have hread : (ofFile (including inwardText) "f").1 =
      .ok (.dictionary ⟨"f", false, 1, 1⟩ [.primitive ⟨"a", false, 1, 1⟩ [⟨.number (.int 1), 1⟩],
        .primitive ⟨"a", false, 1, 1⟩ [⟨.number (.int 2), 1⟩],
        .dictionary ⟨"d", false, 1, 1⟩ [.primitive ⟨"b", false, 1, 1⟩ [⟨.number (.int 2), 1⟩],
          .dictionary ⟨"e", false, 1, 1⟩
            [.primitive ⟨"c", false, 1, 1⟩ [⟨.number (.int 2), 1⟩]]]]) := by
    rw [hread]
    cbv
  have hmode : finalMode (including inwardText) "f" = .retain := by
    rw [hmode]
    cbv
  obtain ⟨log, houter⟩ := ofFile_including hlex htext
  have hstaged : (exec (staged (deeper (including inwardText)) (.ofTokens "f" inward))
      { start (deeper (including inwardText)) with log }).1 = .ok () := by cbv
  have hincludes := includes_including inwardText
  refine ⟨_, _, hincludes, rfl, hread, ?_⟩
  refine (includes_iff hincludes rfl hread).mpr ⟨by decide, fun f hf => ?_, .inl hmode⟩
  rw [hf, hstaged] at houter
  cases houter

/-- A name at the outermost dictionary. -/
def rooted : List Token := [⟨.word "a", 1⟩, ⟨.number (.int 1), 1⟩, ⟨.terminator, 1⟩, ⟨.word "b", 1⟩,
  ⟨.reference "!a", 1⟩, ⟨.terminator, 1⟩]

/-- A name at the outermost dictionary is not found in a file that is included. -/
theorem not_includes : ∃ setup e f, setup.files.Includes "g" "f" "f" ∧
    setup.registry.find? "include" = some (.includeFile false) ∧ setup.settings.mode = .retain ∧
    0 ≤ setup.settings.maxExpansion ∧ (ofFile setup "f").1 = .ok e ∧
    (ofFile (deeper setup) "g").1 = .error f := by
  have hlex : Lexer.lex 1 "a 1;b $!a;".toList = ⟨rooted, none⟩ :=
    Lexer.lex_of_lexWithin (n := 10) (by cbv)
  have htext : Text.ofOctets "a 1;b $!a;".toUTF8 = "a 1;b $!a;" := by cbv
  have hread : (ofFile (including "a 1;b $!a;") "f").1 = .ok (.dictionary ⟨"f", false, 1, 1⟩
      [.primitive ⟨"a", false, 1, 1⟩ [⟨.number (.int 1), 1⟩],
        .primitive ⟨"b", false, 1, 1⟩ [⟨.number (.int 1), 1⟩]]) := by
    rw [(ofFile_included hlex htext).1]
    cbv
  obtain ⟨log, houter⟩ := ofFile_including hlex htext
  have hstaged : (exec (staged (deeper (including "a 1;b $!a;")) (.ofTokens "f" rooted))
      { start (deeper (including "a 1;b $!a;")) with log }).1 =
        .error (.inText (.undefinedVariable "!a") 1 "f") := by cbv
  rw [hstaged] at houter
  cases hg : (ofFile (deeper (including "a 1;b $!a;")) "g").1 with
  | ok =>
    rw [hg] at houter
    cases houter
  | error f =>
    exact ⟨_, _, f, includes_including _, rfl, rfl, by decide, hread, hg⟩

end Reader

end CaseDict
