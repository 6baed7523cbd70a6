import CaseDict.Proofs.Sequences
/-! # References and directives side by side

Two contexts are alike if the same names denote the same there, the same directives are known, and
the same files stand beside them; their limits of expansion may differ if a failure at the lower one
parts the runs. Then what references and directives stand for follows each other in them. -/

namespace CaseDict

open Expansion

variable {α β γ : Type}

/-- The event says that a redefinition was ignored. -/
def Event.isIgnored : Event → Bool
  | .redefinitionIgnored .. => true
  | _ => false

namespace Link

variable {σ : Type}

/-- Every failure of the class parts the runs, and nothing is said of the second one then. -/
structure Loose (L : Link σ) (c : ErrorClass) : Prop where
  parts {f : Failure} (h : f.class? = some c) : L.parts f
  after : L.after = none

/-- A limit is the same in both runs, or the failures at it part them. -/
def Limited {ν : Type} [LE ν] (L : Link σ) (c : ErrorClass) (limit limit' : ν) : Prop :=
  limit = limit' ∨ limit ≤ limit' ∧ L.Loose c

/-- Two runs open the same input, which is known; or the first one can read nothing of what it opens,
which parts the runs, and nothing is said of the second one then. -/
def Opens {σ : Type} (L : Link σ) (V : Vocabulary) (i i' : Input) : Prop :=
  i = i' ∧ V.Knows i ∨ (∃ f, i.next = .error f ∧ L.parts f) ∧ L.after = none

theorem Limited.of_succ {L : Link σ} {c : ErrorClass} {n n' : Nat} (h : L.Limited c (n + 1) n') :
    ∃ k, n' = k + 1 ∧ L.Limited c n k := by
  rcases h with rfl | ⟨hle, hl⟩
  · exact ⟨n, rfl, .inl rfl⟩
  · exact ⟨n' - 1, by omega, .inr ⟨by omega, hl⟩⟩

end Link

theorem Calc.calculate_eq_ok {source : String} {s : Symbol} (h : calculate source = .ok s) :
    s = .word "true" ∨ s = .word "false" ∨ ∃ n, s = .number n := by
  unfold calculate at h
  split at h
  · contradiction
  · split at h
    · contradiction
    · contradiction
    · next q _ =>
      split at h
      · next hq =>
        obtain rfl := Except.ok.inj h
        cases q with
        | bool b => cases b <;> cases hq <;> simp
        | int | float =>
          cases hq
          exact .inr (.inr ⟨_, rfl⟩)
        | complex => contradiction
      · contradiction

/-- What the environment has for a name, all of it on the line of the reference. -/
theorem Surroundings.environmentTokens_eq_ok {name text : String} {line : Int} {ts : List Token}
    (h : environmentTokens name text line = .ok ts) :
    ∃ us, Lexer.lex 1 text.toList = ⟨us, none⟩ ∧ ts = us.map fun t => { t with line } := by
  unfold environmentTokens Lexer.tokens at h
  generalize Lexer.lex 1 text.toList = lexed at h ⊢
  obtain ⟨us, _ | f⟩ := lexed
  · replace h : (if us.any (·.symbol == .terminator) then _ else _) = Except.ok ts := h
    split at h
    · contradiction
    · exact ⟨us, rfl, (Except.ok.inj h).symm⟩
  · contradiction

theorem Surroundings.lookup_of_environmentText? {s : Surroundings} {name text : String}
    (h : s.environmentText? name = some text) : s.environment.lookup name = some text := by
  unfold environmentText? at h
  split at h
  · exact h
  · contradiction

/-! ### What is asked of the two contexts -/

/-- The same names denote the same. -/
structure Surroundings.Alike (L : Link (List Event)) (V : Vocabulary) (s s' : Surroundings) :
    Prop where
  /-- Tokens in which nothing is left to expand can stand for the reference. Other tokens are
  expanded as an input is, and any fit tokens may come of them. -/
  tokens (name : String) (hn : V.names name) (line : Int) : L.Meets
    (Same fun ts => if ts.any (·.symbol.isMacro) then (∀ t ∈ ts, V.plain t) ∧ V.Whole
      else V.stands ts) (s.tokens name line) (s'.tokens name line)
  text (line : Int) (name : String) (hn : V.names name) :
    L.Meets (Same fun _ => True) (s.text line name) (s'.text line name)

/-- Two setups know the same directives and files. -/
structure Setup.Alike (L : Link (List Event)) (V : Vocabulary) (setup setup' : Setup) : Prop where
  directive (name : String) (line : Int) (source : Option String) :
    L.Meets (Same fun d => setup'.registry.find? name = some d)
      (setup.registry.get name line source) (setup'.registry.get name line source)
  /-- The files that are read hold known tokens, and any fit tokens may come of them. -/
  includes {t : Token} {name : String} {optional : Bool} (ht : V.plain t)
    (hs : t.symbol = .directive name)
    (hd : setup'.registry.find? name = some (.includeFile optional)) :
    V.Whole ∧ ∀ p, L.Meets (fun text text' => L.Opens V (.ofText p.text text) (.ofText p.text text'))
      (setup.files.readText p) (setup'.files.readText p)
  current : setup.files.current = setup'.files.current
  isFile (p : Path) : setup.files.isFile p = setup'.files.isFile p
  paths : setup.settings.includePaths = setup'.settings.includePaths
  depth : L.Limited .expansionOverflow setup.settings.maxExpansion setup'.settings.maxExpansion
  report {e : Event} (he : e.isIgnored = false) : Follows L (report e) (report e) Any
  shared : V.Shared L

theorem Registry.find?_of_get {r : Registry} {name : String} {line : Int} {source : Option String}
    {d : Directive} (h : r.get name line source = .ok d) : r.find? name = some d := by
  unfold get at h
  split at h
  · next hf =>
    obtain rfl := Except.ok.inj h
    exact hf
  · contradiction

/-- A setup beside itself with other settings. -/
theorem Setup.Alike.of_settings {L : Link (List Event)} {V : Vocabulary} {setup : Setup}
    {settings : Settings} (hpaths : settings.includePaths = setup.settings.includePaths)
    (hdepth : L.Limited .expansionOverflow setup.settings.maxExpansion settings.maxExpansion)
    (hincludes : ∀ t name optional, V.plain t → t.symbol = .directive name →
      setup.registry.find? name = some (.includeFile optional) →
        V.Whole ∧ ∀ p text, setup.files.readText p = .ok text → V.Knows (.ofText p.text text))
    (hreport : ∀ e : Event, e.isIgnored = false →
      Follows L (Expansion.report e) (Expansion.report e) Any)
    (hshared : V.Shared L) : setup.Alike L V { setup with settings } where
  directive _ _ _ := .refl (fun _ h => ⟨rfl, Registry.find?_of_get h⟩) fun f h =>
    hshared f (V.fails_of (Registry.isDuplicate_of_get h))
  includes ht hs hd := by
    obtain ⟨hwhole, hfiles⟩ := hincludes _ _ _ ht hs hd
    refine ⟨hwhole, fun p => .refl (fun text h => .inl ⟨rfl, hfiles p text h⟩) fun f hf => ?_⟩
    exact hshared f (V.fails_of (Files.isDuplicate_of_readText hf))
  current := rfl
  isFile _ := rfl
  paths := hpaths.symm
  depth := hdepth
  report he := hreport _ he
  shared := hshared

/-- A setup beside itself with other settings, until the runs part. -/
theorem Setup.Alike.upTo {V : Vocabulary} {setup : Setup} {settings : Settings}
    {parts : Failure → Prop} (hpaths : settings.includePaths = setup.settings.includePaths)
    (hdepth : (Link.upTo parts : Link (List Event)).Limited .expansionOverflow
      setup.settings.maxExpansion settings.maxExpansion)
    (hincludes : ∀ t name optional, V.plain t → t.symbol = .directive name →
      setup.registry.find? name = some (.includeFile optional) →
        V.Whole ∧ ∀ p text, setup.files.readText p = .ok text → V.Knows (.ofText p.text text)) :
    setup.Alike (.upTo parts) V { setup with settings } :=
  .of_settings hpaths hdepth hincludes
    (fun _ _ => .changing (fun _ _ h => h ▸ rfl) fun _ ha => by contradiction) fun _ _ => trivial

namespace Follows

/-- At the limit of expansion the runs meet or part. -/
theorem tooDeep {σ : Type} {L : Link σ} {limit limit' : Int} {n' : Nat} {f : Failure}
    {m : ExceptT Failure (StateM σ) α} {post : α → α → Prop}
    (hf : f.class? = some .expansionOverflow) (hs : L.shares f)
    (hd : L.Limited .expansionOverflow limit limit')
    (hn : L.Limited .expansionOverflow 0 n')
    (h : limit = limit' → n' = 0 → m = MonadExcept.throw f) :
    Follows L (MonadExcept.throw f) m post := by
  rcases hd with hd | ⟨-, hl⟩
  · rcases hn with hn | ⟨-, hl⟩
    · rw [h hd hn.symm]
      exact .throw hs
    · exact .left (hl.parts hf) hl.after
  · exact .left (hl.parts hf) hl.after

variable {L : Link (List Event)} {V : Vocabulary} {c c' : Context} {i : Input}

/-! ### Files -/

theorem expandText {s s' : Surroundings} (h : s.Alike L V s') {template : String}
    (hnames : ∀ name ∈ Template.names template, V.names name) (line : Int) :
    L.Meets (Same fun _ => True) (s.expandText template line) (s'.expandText template line) := by
  unfold Surroundings.expandText
  unfold Template.names at hnames
  generalize Template.pieces template.toList = ps at hnames ⊢
  induction ps with
  | nil => exact .ok ⟨rfl, trivial⟩
  | cons p ps ih =>
    cases p with
    | literal ch => exact .bind (ih hnames) fun text _ ⟨htext, _⟩ => htext ▸ .ok ⟨rfl, trivial⟩
    | reference name =>
      obtain ⟨hname, hnames⟩ := List.forall_mem_cons.mp hnames
      refine .bind (h.text line name hname) fun text _ ⟨htext, _⟩ => htext ▸ ?_
      exact .bind (ih hnames) fun more _ ⟨hmore, _⟩ => hmore ▸ .ok ⟨rfl, trivial⟩

section Alike

variable (hs : c.setup.Alike L V c'.setup)

include hs

theorem consulted (path : String) :
    Follows L (report (.consulted path)) (report (.consulted path)) Any :=
  hs.report rfl

theorem candidates (source : String) (name : Path) :
    Follows L (candidates c source name) (candidates c' source name) (Same fun _ => True) := by
  unfold Expansion.candidates
  dsimp only
  rw [hs.current, hs.paths, hs.isFile]
  split
  · exact .pure_same
  · refine .bind (consulted hs _) fun _ _ _ => ?_
    refine .bind_same (.lift_any fun f hf => ?_) fun _ _ => .pure_same
    exact hs.shared f (V.fails_of (Files.isDuplicate_of_isFile hf))

theorem firstFile (ps : List Path) :
    Follows L (firstFile c ps) (firstFile c' ps) (Same fun _ => True) := by
  induction ps with
  | nil => exact .pure_same
  | cons p ps ih =>
    unfold Expansion.firstFile
    rw [hs.isFile]
    refine .bind (consulted hs _) fun _ _ _ => ?_
    refine .bind_same (.lift_any fun f hf => ?_) fun found _ => ?_
    · exact hs.shared f (V.fails_of (Files.isDuplicate_of_isFile hf))
    split
    · exact .pure_same
    · exact ih

theorem locate (ha : c.surroundings.Alike L V c'.surroundings) (optional : Bool) (t : Token)
    (hi : V.Knows i) : Follows L (locate c optional t i) (locate c' optional t i)
      (Leaves V (Same fun _ => True)) := by
  unfold Expansion.locate
  refine .bind_same (.expect hs.shared hi _) fun ⟨argument, rest⟩ ⟨hargument, hrest⟩ => ?_
  have hnames (name : String) : name ∈ argument.symbol.names → V.names name :=
    V.names_of_plain hargument
  dsimp -zeta only at hnames ⊢
  extract_lets find find'
  have hfind (raw : String) (hraw : ∀ name ∈ Template.names raw, V.names name) :
      Follows L (find raw) (find' raw) (Leaves V (Same fun _ => True)) := by
    refine .bind_same (.lift (expandText ha hraw t.line)) fun name _ => ?_
    refine .bind_same (candidates hs _ _) fun places _ => ?_
    refine .bind_same (firstFile hs places) fun found _ => ?_
    split
    · exact .pure ⟨⟨rfl, trivial⟩, rfl, hrest⟩
    · split
      · exact .pure ⟨⟨rfl, trivial⟩, rfl, hrest⟩
      · refine .bind (hs.report rfl) fun _ _ _ => .throws hs.shared rfl
  split
  all_goals first
    | next hargument =>
      rw [hargument] at hnames
      exact .bind_same (.pure ⟨rfl, hnames⟩) hfind
    | exact .throws_bind hs.shared rfl

omit hs in
theorem openFile {p : Path} {post : Input → Input → Prop}
    (hp : L.Meets (fun text text' => post (.ofText p.text text) (.ofText p.text text'))
      (c.setup.files.readText p) (c'.setup.files.readText p)) :
    Follows L (openFile c p) (openFile c' p) post := .bind (.lift hp) fun _ _ h => .pure h

omit hs in
theorem failsWith_expandAll {reference : Token → String → ExpandM (List Token)}
    {inline : Token → (i : Input) → ExpandM (Taken (List Token) i)} {f : Failure}
    (hf : i.next = .error f) : FailsWith f (Expansion.expandAll reference inline i) := by
  rw [expandAll.eq_def, hf]
  exact FailsWith.throw.bind

/-! ### References and directives -/

theorem calculate (ha : c.surroundings.Alike L V c'.surroundings) (t : Token)
    (hi : V.Knows i) : Follows L (calculate c t i) (calculate c' t i)
      (Leaves V (Same V.stands)) := by
  unfold Expansion.calculate
  refine .bind_same (.expect hs.shared hi _) fun ⟨argument, rest⟩ ⟨hargument, hrest⟩ => ?_
  have hnames (name : String) : name ∈ argument.symbol.names → V.names name :=
    V.names_of_plain hargument
  dsimp -zeta only at hnames ⊢
  extract_lets evaluate evaluate'
  have hevaluate (source : String) (hsource : ∀ name ∈ Template.names source, V.names name) :
      Follows L (evaluate source) (evaluate' source) (Leaves V (Same V.stands)) := by
    refine .bind_same (.lift (expandText ha hsource t.line)) fun expression _ => ?_
    split
    · exact .throws hs.shared rfl
    · split
      · next hw => exact .pure ⟨⟨rfl, V.stands_number hw⟩, rfl, hrest⟩
      · exact .throws hs.shared rfl
    · next s hn hs =>
      refine .pure ⟨⟨rfl, ?_⟩, rfl, hrest⟩
      rcases Calc.calculate_eq_ok hs with rfl | rfl | ⟨n, rfl⟩
      · exact V.stands_switch (.inl rfl)
      · exact V.stands_switch (.inr rfl)
      · exact absurd rfl (hn n)
  split
  all_goals first
    | next hargument =>
      rw [hargument] at hnames
      exact .bind_same (.pure ⟨rfl, hnames⟩) hevaluate
    | exact .throws_bind hs.shared rfl

variable {n n' : Nat}

variable (ha : c.surroundings.Alike L V c'.surroundings)

include ha

theorem reference_succ (href : Referring L V (reference c n) (reference c' n'))
    (hin : Inlining L V (inline c n) (inline c' n')) :
    Referring L V (reference c (n + 1)) (reference c' (n' + 1)) := by
  intro t source name ht hplain
  have hname : V.names t.symbol.value := by
    refine V.names_of_plain hplain ?_
    rw [ht]
    exact List.mem_singleton_self name
  unfold Expansion.reference
  refine .bind_same (.lift (ha.tokens _ hname _)) fun ts hts => ?_
  split
  · next hm =>
    rw [if_pos hm] at hts
    have hi : V.Knows (.ofTokens (Surroundings.textName t.symbol.value) ts) :=
      ⟨hts.1, fun _ h => by contradiction⟩
    exact (expandAll href hin hs.shared hi).mono fun us _ ⟨hsame, hus⟩ => ⟨hsame, hts.2 us hus⟩
  · next hm =>
    rw [if_neg hm] at hts
    exact .pure ⟨rfl, hts⟩

theorem inline_succ (href : Referring L V (reference c n) (reference c' n'))
    (hin : Inlining L V (inline c n) (inline c' n')) :
    Inlining L V (inline c (n + 1)) (inline c' (n' + 1)) := by
  intro t i name ht hplain hi
  unfold Expansion.inline
  refine .bind_same (.lift (hs.directive _ _ _)) fun d hd => ?_
  rw [ht] at hd
  cases d with
  | calculate => exact calculate hs ha t hi
  | negate =>
    refine .bind (readArgument href hin hs.shared hi) ?_
    rintro ⟨ts, rest⟩ ⟨_, _⟩ ⟨⟨rfl, hts⟩, rfl, hrest⟩
    dsimp only
    split
    · exact .pure ⟨⟨rfl, V.stands_negate (hts _ (List.mem_singleton_self _))⟩, rfl, hrest⟩
    · exact .throws hs.shared rfl
  | includeFile optional =>
    obtain ⟨hwhole, hfiles⟩ := hs.includes hplain ht hd
    refine .bind (locate hs ha optional t hi) ?_
    rintro ⟨found, rest⟩ ⟨_, _⟩ ⟨⟨rfl, -⟩, rfl, hrest⟩
    dsimp only
    split
    · exact .pure ⟨⟨rfl, hwhole _ (List.forall_mem_nil _)⟩, rfl, hrest⟩
    · next p =>
      refine .bind (openFile (hfiles p)) ?_
      rintro file file' (⟨rfl, hfile⟩ | ⟨⟨f, hf, hparts⟩, hafter⟩)
      · refine .bind_same (expandAll href hin hs.shared hfile) fun ts hts => ?_
        exact .pure ⟨⟨rfl, hwhole ts hts⟩, rfl, hrest⟩
      · exact (failsWith_expandAll hf).bind.parts hparts hafter
  | ifEqual | ifTrue | otherwise | endIf | remove | inputMode | blank => exact .throws hs.shared rfl

variable (c c') in
/-- What references and directives stand for follows each other. -/
theorem expansion (hn : L.Limited .expansionOverflow n n') :
    Referring L V (reference c n) (reference c' n') ∧
      Inlining L V (inline c n) (inline c' n') := by
  induction n generalizing n' with
  | zero =>
    refine ⟨fun t source name ht hplain => ?_, fun t i name ht hplain hi => ?_⟩
    all_goals
      refine tooDeep rfl (hs.shared _ (V.fails_of rfl)) hs.depth hn fun hd h0 => ?_
      subst h0
      rw [Context.tooDeep, hd]
      rfl
  | succ n ih =>
    obtain ⟨k, rfl, hk⟩ := hn.of_succ
    obtain ⟨href, hin⟩ := ih hk
    exact ⟨reference_succ hs ha href hin, inline_succ hs ha href hin⟩

end Alike

end Follows

end CaseDict
