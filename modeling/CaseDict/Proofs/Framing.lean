import CaseDict.Proofs.Correspondence
import CaseDict.Proofs.Literal
/-! # Two reads of dictionaries that correspond

Two reads may make dictionaries that are not the same. A `Framing` says which dictionaries
correspond: those the reads begin in, those inside and the entries of blocks. The reads take the
same course if names denote the same in such dictionaries and entries are placed in them alike
(`Framing.courses`). -/

namespace CaseDict

open Expansion Statement Entry

/-- Nothing is asked of what is read, and patterns stand as keywords only if `patterns` holds. -/
abbrev Vocabulary.freely (patterns : Prop) : Vocabulary := { Vocabulary.free with patterns }

/-- What statements are read into: the scope a read begins in, a dictionary inside, or a block. -/
inductive Scope.Kind where
  | outermost
  | dictionary
  | block (below : Kind)

/-- Which scopes, entries and surroundings of two reads correspond. -/
structure Framing where
  /-- Scopes that the reads begin in. -/
  outermost : Scope → Scope → Prop
  /-- Entries of dictionaries and blocks inside. -/
  contents : List Entry → List Entry → Prop
  /-- What dictionaries are inside of. -/
  around : List (Frame Entry) → List (Frame Entry) → Prop
  nil : contents [] []
  filter {es es' : List Entry} (h : contents es es') (keep : String → Bool) :
    contents (es.filter fun e => keep e.keyword) (es'.filter fun e => keep e.keyword)
  made {s s' : Scope} (h : outermost s s') :
    s.Carries (fun _ => True) ∧ s'.Carries (fun _ => True)
  frames {s s' : Scope} (h : outermost s s') : around s.frames s'.frames
  cons {fs fs' : List (Frame Entry)} {es es' : List Entry} (h : around fs fs')
    (he : contents es es') (transparent : Bool) :
    around (⟨es, transparent⟩ :: fs) (⟨es', transparent⟩ :: fs')
  removeThrough {s s' : Scope} (h : outermost s s') (what : List Removal) :
    outermost (s.removeThrough what) (s'.removeThrough what)

/-- A framing that tells which entries the outermost scopes may have. -/
structure Framing.Placing extends Framing where
  /-- Entries of the scopes that the reads begin in. -/
  members : List Entry → List Entry → Prop
  entries {s s' : Scope} (h : outermost s s') : members s.entries s'.entries
  refill {s s' : Scope} {es es' : List Entry} (h : outermost s s') (he : members es es') :
    outermost (s.refill es) (s'.refill es')

namespace Framing

variable (F : Framing)

/-- Entries of scopes of a kind. -/
def Placing.membersOf (F : Framing.Placing) : Scope.Kind → List Entry → List Entry → Prop
  | .outermost => F.members
  | _ => F.contents

/-- Scopes of a kind. -/
inductive Rel : Scope.Kind → Scope → Scope → Prop
  | outermost {s s' : Scope} (h : F.outermost s s') : Rel .outermost s s'
  | dictionary {es es' : List Entry} {around around' : List (Frame Entry)}
      {removed removed' : List Removal} (h : F.contents es es') (ha : F.around around around') :
      Rel .dictionary (.fresh es around removed) (.fresh es' around' removed')
  | block {x : Scope.Kind} {es es' : List Entry} {below below' : Scope} (h : F.contents es es')
      (hb : Rel x below below') : Rel (.block x) (.staged es below) (.staged es' below')

variable {F} {x : Scope.Kind} {s s' : Scope} {es es' : List Entry}

theorem applyAll_of_filter {R : List Entry → List Entry → Prop}
    (hfilter : ∀ {es es' : List Entry}, R es es' → ∀ keep : String → Bool,
      R (es.filter fun e => keep e.keyword) (es'.filter fun e => keep e.keyword))
    (h : R es es') (what : List Removal) :
    R (Removal.applyAll what es) (Removal.applyAll what es') := by
  induction what generalizing es es' with
  | nil => exact h
  | cons r what ih => exact ih (hfilter h fun k => !r.takes k)

theorem contents_applyAll (h : F.contents es es') (what : List Removal) :
    F.contents (Removal.applyAll what es) (Removal.applyAll what es') :=
  applyAll_of_filter F.filter h what

namespace Rel

theorem made (h : F.Rel x s s') : s.Carries (fun _ => True) ∧ s'.Carries (fun _ => True) := by
  have hany (es : List Entry) : AllCarry (fun _ => True) es := fun _ _ _ _ => trivial
  induction h with
  | outermost h => exact F.made h
  | dictionary => exact ⟨⟨hany _, fun _ _ => hany _⟩, hany _, fun _ _ => hany _⟩
  | block _ _ ih => exact ⟨⟨hany _, ih.1⟩, hany _, ih.2⟩

theorem contents (h : F.Rel .dictionary s s') : F.contents s.entries s'.entries := by
  cases h with
  | dictionary h => exact h

theorem entries {F : Framing.Placing} (h : F.Rel x s s') :
    F.membersOf x s.entries s'.entries := by
  cases h with
  | outermost h => exact F.entries h
  | dictionary h => exact h
  | block h => exact h

theorem refill {F : Framing.Placing} (h : F.Rel x s s') (he : F.membersOf x es es') :
    F.Rel x (s.refill es) (s'.refill es') := by
  cases h with
  | outermost h => exact .outermost (F.refill h he)
  | dictionary _ ha => exact .dictionary he ha
  | block _ hb => exact .block he hb

theorem frames (h : F.Rel x s s') : F.around s.frames s'.frames := by
  induction h with
  | outermost h => exact F.frames h
  | dictionary h ha => exact F.cons ha h false
  | block h _ ih => exact F.cons ih h true

theorem inner (h : F.Rel x s s') : F.Rel .dictionary s.inner s'.inner :=
  .dictionary F.nil h.frames

theorem removeThrough (h : F.Rel x s s') (what : List Removal) :
    F.Rel x (s.removeThrough what) (s'.removeThrough what) := by
  induction h with
  | outermost h => exact .outermost (F.removeThrough h what)
  | dictionary h ha => exact .dictionary (contents_applyAll h what) ha
  | block h _ ih => exact .block (contents_applyAll h what) ih

end Rel

variable (F) in
/-- The scopes of two reads correspond, and their modes and logs are related. -/
def link (L : Link (List Event)) (modes : InputMode → InputMode → Prop) (x : Scope.Kind) :
    Link ReadState where
  rel s s' := F.Rel x s.scope s'.scope ∧ modes s.mode s'.mode ∧ L.rel s.log s'.log
  shares := L.shares
  parts := L.parts

variable {L : Link (List Event)} {modes : InputMode → InputMode → Prop} {α β : Type}
  {m : ReadM α} {m' : ReadM β} {post : α → β → Prop}

theorem inDictionary (h : Follows (F.link L modes .dictionary) m m' post) :
    Follows (F.link L modes x) (inDictionary m) (inDictionary m')
      fun p q => post p.1 q.1 ∧ F.contents p.2 q.2 := by
  refine .between (fun s => { s with scope := s.scope.inner })
    (fun s t => (t.scope.entries, { t with scope := s.scope })) h
    (fun _ => exec_inDictionary m) (fun _ => exec_inDictionary m') ?_ ?_ (fun _ => ⟨id, id⟩)
    fun _ ha => by contradiction
  · rintro s s' ⟨hscope, hrest⟩
    exact ⟨hscope.inner, hrest⟩
  · rintro s s' t t' ⟨hscope, -⟩ ⟨hinside, hrest⟩
    exact ⟨⟨hscope, hrest⟩, hinside.contents⟩

theorem inBlock (h : Follows (F.link L modes (.block x)) m m' post) :
    Follows (F.link L modes x) (inBlock m) (inBlock m')
      fun p q => post p.1 q.1 ∧ F.contents p.2 q.2 := by
  refine .between (fun s => { s with scope := .staged [] s.scope })
    (fun _ t => Follows.leaveBlock t) h (Follows.exec_inBlock_eq m) (Follows.exec_inBlock_eq m')
    ?_ ?_ (fun _ => ⟨id, id⟩) fun _ ha => by contradiction
  · rintro s s' ⟨hscope, hrest⟩
    exact ⟨.block F.nil hscope, hrest⟩
  · rintro s s' ⟨_, mode, log⟩ ⟨_, mode', log'⟩ - ⟨hscope, hrest⟩
    cases hscope with
    | block hes hbelow => exact ⟨⟨hbelow, hrest⟩, hes⟩

theorem expanding {setup setup' : Setup} {act : Context → ExpandM α} {act' : Context → ExpandM β}
    (h : ∀ fs fs', F.around fs fs' → Follows L (act ⟨setup, fs⟩) (act' ⟨setup', fs'⟩) post) :
    Follows (F.link L modes x) (expanding setup act) (expanding setup' act') post where
  ends := by
    rintro s s' ⟨hscope, hmode, hlog⟩
    have h := (h _ _ hscope.frames).ends _ _ hlog
    rw [exec_expanding, exec_expanding]
    generalize exec (act ⟨setup, s.scope.frames⟩) s.log = p,
      exec (act' ⟨setup', s'.scope.frames⟩) s'.log = p' at h ⊢
    cases h with
    | ok hab hl => exact .ok hab ⟨hscope, hmode, hl⟩
    | error hf => exact .error hf
    | parted hf hp => exact .parted hf (.of_none rfl)
  stays _ ha := by contradiction

/-- A change of corresponding scopes. -/
theorem rescoping {g : Scope → Scope} (h : ∀ s s', F.Rel x s s' → F.Rel x (g s) (g s')) :
    Follows (F.link L modes x) (modify fun s => { s with scope := g s.scope })
      (modify fun s => { s with scope := g s.scope }) Any := by
  refine .changing ?_ fun _ ha => by contradiction
  rintro s s' ⟨hscope, hrest⟩
  exact ⟨h _ _ hscope, hrest⟩

/-- A change to related modes. -/
theorem setting {mode mode' : InputMode} (h : modes mode mode') :
    Follows (F.link L modes x) (modify fun s => { s with mode })
      (modify fun s => { s with mode := mode' }) Any := by
  refine .changing ?_ fun _ ha => by contradiction
  rintro s s' ⟨hscope, -, hlog⟩
  exact ⟨hscope, h, hlog⟩

section Placing

variable {F : Framing.Placing}

/-- Entries are placed alike if they are among corresponding entries, and if what is reported keeps
the logs related. -/
theorem placing_reporting {e e' : Entry}
    (h : ∀ es es' mode mode' log log', F.membersOf x es es' → modes mode mode' → L.rel log log' →
      L.Meets (fun p p' => F.membersOf x p.entries p'.entries ∧
        L.rel (log ++ p.events) (log' ++ p'.events)) (e.place mode es) (e'.place mode' es')) :
    Follows (F.link L modes x) (place e) (place e') Any where
  ends := by
    rintro s s' ⟨hscope, hmode, hl⟩
    obtain ⟨hmade, hmade'⟩ := hscope.made
    have h := h _ _ _ _ _ _ hscope.entries hmode hl
    rw [exec_place_carries hmade, exec_place_carries hmade']
    generalize e.place s.mode s.scope.entries = r, e'.place s'.mode s'.scope.entries = r' at h ⊢
    cases h with
    | ok hp => exact .ok trivial ⟨hscope.refill hp.1, hmode, hp.2⟩
    | error hf => exact .error hf
    | parted hf => exact .parted hf (.of_none rfl)
  stays _ ha := by contradiction

/-- Entries are placed alike if they are among corresponding entries. -/
theorem placing {e e' : Entry}
    (hlog : ∀ log log' events, L.rel log log' → L.rel (log ++ events) (log' ++ events))
    (h : ∀ es es' mode mode', F.membersOf x es es' → modes mode mode' →
      L.Meets (fun p p' => F.membersOf x p.entries p'.entries ∧ p.events = p'.events)
        (e.place mode es) (e'.place mode' es')) :
    Follows (F.link L modes x) (place e) (place e') Any := by
  refine placing_reporting fun es es' mode mode' log log' hes hmode hl => ?_
  refine (h es es' mode mode' hes hmode).mono fun p p' _ _ hp => ⟨hp.1, ?_⟩
  rw [hp.2]
  exact hlog _ _ _ hl

/-- The entries of a statement are placed alike if each of them is, unless they are refused. -/
theorem placingAll {P : Entry → Prop} (hshares : ∀ f, L.shares f)
    (hmodes : ∀ mode mode', modes mode mode' → (mode = .error ↔ mode' = .error))
    (hlines : ∀ es es', F.membersOf x es es' → firstLines es = firstLines es')
    (hplace : ∀ e, P e → Follows (F.link L modes x) (place e) (place e) Any) {es : List Entry}
    (hes : ∀ e ∈ es, P e) : Follows (F.link L modes x) (placeAll es) (placeAll es) Any where
  ends s s' hs := by
    have heach := (Follows.placingEach hplace hes).ends s s' hs
    obtain ⟨hscope, hmode, -⟩ := hs
    unfold placeAll
    rw [exec_bind, exec_get, exec_bind, exec_get]
    dsimp only
    rw [← hlines _ _ hscope.entries]
    by_cases hm : s.mode = .error
    · rw [if_pos hm, if_pos ((hmodes _ _ hmode).mp hm), exec_bind, exec_lift, exec_bind, exec_lift]
      cases checkNew (firstLines s.scope.entries) es with
      | error f => exact .error (hshares f)
      | ok => exact heach
    · rw [if_neg hm, if_neg fun h => hm ((hmodes _ _ hmode).mpr h)]
      exact heach
  stays _ ha := by contradiction

section Same

variable {Q : List Entry → Prop} {P : Entry → Prop} {M : InputMode → Prop}
  (hshares : ∀ f, L.shares f)
  (hlog : ∀ log log' events, L.rel log log' → L.rel (log ++ events) (log' ++ events))
  (hsame : F.membersOf x = Same Q)
  (hplace : ∀ mode es e p, M mode → Q es → P e → e.place mode es = .ok p → Q p.entries)

include hshares hlog hsame hplace

/-- An entry is placed alike among the same entries. -/
theorem placing_same {e : Entry} (he : P e) :
    Follows (F.link L (Same M) x) (place e) (place e) Any := by
  refine placing hlog fun es es' mode mode' hes hm => ?_
  obtain ⟨rfl, hm⟩ := hm
  rw [hsame] at *
  obtain ⟨rfl, hes⟩ := hes
  exact .refl (fun p hp => ⟨⟨rfl, hplace mode es e p hm hes he hp⟩, rfl⟩) fun f _ => hshares f

/-- The entries of a statement are placed alike among the same entries. -/
theorem placingAll_same {es : List Entry} (hes : ∀ e ∈ es, P e) :
    Follows (F.link L (Same M) x) (placeAll es) (placeAll es) Any := by
  refine placingAll hshares ?_ (fun es es' h => ?_)
    (fun e => placing_same hshares hlog hsame hplace) hes
  · rintro mode _ ⟨rfl, -⟩
    rfl
  · rw [hsame] at h
    rw [h.1]

end Same

end Placing

/-- Reads of corresponding dictionaries take the same course if they find the same and place entries
alike, and if all that files and the environment bring is known. The second read may be nested
further in. -/
theorem courses_known {V : Vocabulary} {setup : Setup} {settings : Settings} {watch : Watch}
    {shift : Nat}
    (hshares : ∀ f, L.shares f) (hafter : L.after = none)
    (hwithin : ∀ f name, L.parts f → L.parts (f.within name))
    (hreport : ∀ log log' event, L.rel log log' → L.rel (log ++ [event]) (log' ++ [event]))
    (hwatch : L.Stops watch)
    (hquoted : ∀ n t s, t.symbol = .quoted s → watch n t = false → V.patterns)
    (hstands : V.stands = Token.AllLiteral) (hwhole : V.Whole)
    (hfiles : ∀ p text, setup.files.readText p = .ok text → V.Knows (.ofText p.text text))
    (hvalues : ∀ name text line ts, setup.settings.environment.lookup name = some text →
      Surroundings.environmentTokens name text line = .ok ts → ∀ t ∈ ts, V.plain t)
    (hpaths : settings.includePaths = setup.settings.includePaths)
    (henv : setup.settings.environment = settings.environment)
    (hdepth : L.Limited .expansionOverflow setup.settings.maxExpansion settings.maxExpansion)
    (hnesting : L.Nested setup.settings.maxNesting settings.maxNesting shift)
    (hfinds : ∀ fs fs', F.around fs fs' → ∀ name, V.names name →
      Option.Rel (V.Finds F.contents) (Lookup.scopedEntry inspection fs name)
          (Lookup.scopedEntry inspection fs' name) ∨
        L.Loses setup name ∧ Lookup.scopedEntry inspection fs name = none)
    (hchecks : ∀ es es', F.contents es es' → (headingsOf es).findSome? Heading.failure? =
      (headingsOf es').findSome? Heading.failure?)
    (hplace : ∀ x e e', V.Makes F.contents e e' →
      Follows (F.link L modes x) (place e) (place e') Any)
    (hplaceAll : ∀ x es es', F.contents es es' →
      Follows (F.link L modes x) (placeAll es) (placeAll es') Any)
    (hmode : ∀ n t name, t.symbol = .directive name →
      setup.registry.find? name = some .inputMode → watch (n + 1) t = false →
        modes setup.settings.mode settings.mode ∧ ∀ mode, modes mode mode) :
    Courses L (F.link L modes) V watch F.contents setup { setup with settings } shift where
  setups := by
    refine .of_settings hpaths hdepth (fun _ _ _ _ _ _ => ⟨hwhole, hfiles⟩) (fun event _ => ?_)
      fun f _ => hshares f
    refine .changing (fun log log' hl => hreport log log' event hl) fun _ ha => ?_
    rw [hafter] at ha
    contradiction
  nesting _ := hnesting.imp_right fun ⟨hle, hl⟩ => ⟨hle, hl.parts, rfl⟩
  parts h _ := h
  after _ _ := rfl
  within name h := hwithin _ name h
  shared _ f _ := hshares f
  shares_within _ _ := hshares _
  shares h _ := h
  stopped hw _ := ⟨(hwatch _ _ hw).1, rfl⟩
  quoted ht hw := hquoted _ _ _ ht hw
  expanding h := Framing.expanding fun fs fs' ha => by
    refine h fs fs' (.of_finds (fun f _ => hshares f) (hfinds fs fs' ha) (fun ts hts => ?_) henv
      fun name text line ts htext hts => ?_)
    · rwa [hstands] at hts
    · split
      · exact ⟨hvalues name text line ts (Surroundings.lookup_of_environmentText? htext) hts, hwhole⟩
      · next hm =>
        have hliteral : Token.AllLiteral ts := by simpa using hm
        rwa [hstands]
  finds h name hn := hfinds _ _ h.1.frames name hn
  finds_after ha := by contradiction
  checks h := hchecks _ _ h
  nil := F.nil
  inDictionary h := Framing.inDictionary (h .dictionary)
  inBlock h := Framing.inBlock (h (.block _))
  place h := hplace _ _ _ h
  placeAll h := hplaceAll _ _ _ h
  remove hf what := ⟨fun _ _ _ => .error hf, fun _ ha => by contradiction⟩
  removeThrough what := Framing.rescoping fun _ _ h => h.removeThrough what
  mode _ hs hd hw := by
    obtain ⟨hdefault, hmodes⟩ := hmode _ _ _ hs hd hw
    exact ⟨Framing.setting hdefault, fun mode => Framing.setting (hmodes mode)⟩

/-- Reads of corresponding dictionaries take the same course if they find the same and place entries
alike. -/
theorem courses {setup : Setup} {settings : Settings} {watch : Watch} {patterns : Prop}
    (hshares : ∀ f, L.shares f) (hafter : L.after = none)
    (hwithin : ∀ f name, L.parts f → L.parts (f.within name))
    (hreport : ∀ log log' event, L.rel log log' → L.rel (log ++ [event]) (log' ++ [event]))
    (hwatch : L.Stops watch)
    (hquoted : ∀ n t s, t.symbol = .quoted s → watch n t = false → patterns)
    (hpaths : settings.includePaths = setup.settings.includePaths)
    (henv : setup.settings.environment = settings.environment)
    (hdepth : L.Limited .expansionOverflow setup.settings.maxExpansion settings.maxExpansion)
    (hnesting : L.Limited .nestingExceeded setup.settings.maxNesting settings.maxNesting)
    (hfinds : ∀ fs fs', F.around fs fs' → ∀ name,
      Option.Rel ((Vocabulary.freely patterns).Finds F.contents)
          (Lookup.scopedEntry inspection fs name) (Lookup.scopedEntry inspection fs' name) ∨
        L.Loses setup name ∧ Lookup.scopedEntry inspection fs name = none)
    (hchecks : ∀ es es', F.contents es es' → (headingsOf es).findSome? Heading.failure? =
      (headingsOf es').findSome? Heading.failure?)
    (hplace : ∀ x e e', (Vocabulary.freely patterns).Makes F.contents e e' →
      Follows (F.link L modes x) (place e) (place e') Any)
    (hplaceAll : ∀ x es es', F.contents es es' →
      Follows (F.link L modes x) (placeAll es) (placeAll es') Any)
    (hmode : ∀ n t name, t.symbol = .directive name →
      setup.registry.find? name = some .inputMode → watch (n + 1) t = false →
        modes setup.settings.mode settings.mode ∧ ∀ mode, modes mode mode) :
    Courses L (F.link L modes) (.freely patterns) watch F.contents setup
      { setup with settings } :=
  courses_known hshares hafter hwithin hreport hwatch hquoted rfl (fun _ h => h)
    (fun _ _ _ => ⟨fun _ _ => trivial, fun _ _ => trivial⟩) (fun _ _ _ _ _ _ _ _ => trivial) hpaths
    henv hdepth hnesting.nested (fun fs fs' ha name _ => hfinds fs fs' ha name) hchecks hplace
    hplaceAll hmode

/-- Reads of one setup that make the same entries take the same course. `Q` holds of all lists of
entries, `P` of all entries and `M` of all modes. -/
theorem courses_same {F : Framing.Placing} {setup : Setup} {watch : Watch} {patterns : Prop}
    {Q : List Entry → Prop} {P : Entry → Prop} {M : InputMode → Prop}
    (hshares : ∀ f, L.shares f) (hafter : L.after = none)
    (hwithin : ∀ f name, L.parts f → L.parts (f.within name))
    (hlog : ∀ log log' events, L.rel log log' → L.rel (log ++ events) (log' ++ events))
    (hwatch : L.Stops watch)
    (hquoted : ∀ n t s, t.symbol = .quoted s → watch n t = false → patterns)
    (hsame : ∀ x, F.membersOf x = Same Q)
    (hfinds : ∀ fs fs', F.around fs fs' → ∀ name,
      Option.Rel ((Vocabulary.freely patterns).Finds F.contents)
          (Lookup.scopedEntry inspection fs name) (Lookup.scopedEntry inspection fs' name) ∨
        L.Loses setup name ∧ Lookup.scopedEntry inspection fs name = none)
    (hmakes : ∀ e e', (Vocabulary.freely patterns).Makes F.contents e e' → e = e' ∧ P e)
    (hmem : ∀ es, Q es → ∀ e ∈ es, P e)
    (hplace : ∀ mode es e p, M mode → Q es → P e → e.place mode es = .ok p → Q p.entries)
    (hmode : ∀ n t name, t.symbol = .directive name →
      setup.registry.find? name = some .inputMode → watch (n + 1) t = false → ∀ mode, M mode) :
    Courses L (F.link L (Same M)) (.freely patterns) watch F.contents setup setup := by
  have hcontents : F.contents = Same Q := hsame .dictionary
  refine courses hshares hafter hwithin (fun log log' event => hlog log log' [event]) hwatch hquoted
    rfl rfl (.inl rfl) (.inl rfl) hfinds (fun es es' h => ?_) (fun x e e' h => ?_)
    (fun x es es' h => ?_) fun n t name ht hd hw =>
      ⟨⟨rfl, hmode n t name ht hd hw _⟩, fun mode => ⟨rfl, hmode n t name ht hd hw mode⟩⟩
  · rw [hcontents] at h
    rw [h.1]
  · obtain ⟨rfl, he⟩ := hmakes e e' h
    exact placing_same hshares hlog (hsame x) hplace he
  · rw [hcontents] at h
    obtain ⟨rfl, hes⟩ := h
    exact placingAll_same hshares hlog (hsame x) hplace (hmem es hes)

/-! ### Reads that begin in dictionaries of their own -/

/-- How the entries of two reads correspond, in the dictionaries that they begin in and inside. -/
structure Root where
  outer : List Entry → List Entry → Prop
  inner : List Entry → List Entry → Prop
  nil : inner [] []
  filter {es es' : List Entry} (h : inner es es') (keep : String → Bool) :
    inner (es.filter fun e => keep e.keyword) (es'.filter fun e => keep e.keyword)
  filter_outer {es es' : List Entry} (h : outer es es') (keep : String → Bool) :
    outer (es.filter fun e => keep e.keyword) (es'.filter fun e => keep e.keyword)
  outer_of_inner {es es' : List Entry} (h : inner es es') : outer es es'

/-- Reads that begin in dictionaries of their own. -/
def rooted (R : Root) : Framing.Placing where
  outermost s s' := ∃ es es' removed removed', s = .fresh es [] removed ∧
    s' = .fresh es' [] removed' ∧ R.outer es es'
  members := R.outer
  contents := R.inner
  around := List.Forall₂ fun f f' => f.transparent = f'.transparent ∧ R.outer f.entries f'.entries
  nil := R.nil
  filter := R.filter
  made := by
    rintro _ _ ⟨es, es', removed, removed', rfl, rfl, -⟩
    have hany (es : List Entry) : AllCarry (fun _ => True) es := fun _ _ _ _ => trivial
    exact ⟨⟨hany es, List.forall_mem_nil _⟩, hany es', List.forall_mem_nil _⟩
  entries := by
    rintro _ _ ⟨es, es', removed, removed', rfl, rfl, h⟩
    exact h
  refill := by
    rintro _ _ es es' ⟨-, -, removed, removed', rfl, rfl, -⟩ h
    exact ⟨es, es', removed, removed', rfl, rfl, h⟩
  frames := by
    rintro _ _ ⟨es, es', removed, removed', rfl, rfl, h⟩
    exact .cons ⟨rfl, h⟩ .nil
  cons h he _ := .cons ⟨rfl, R.outer_of_inner he⟩ h
  removeThrough := by
    rintro _ _ ⟨es, es', removed, removed', rfl, rfl, h⟩ what
    exact ⟨_, _, _, _, rfl, rfl, applyAll_of_filter R.filter_outer h what⟩

variable (R : Root)

/-- Names denote corresponding entries if they do in single dictionaries. -/
theorem rooted_finds {V : Vocabulary}
    (h : ∀ es es', R.outer es es' → Lookup.Corresponds (V.Finds R.inner) es es')
    {fs fs' : List (Frame Entry)} (hf : (rooted R).around fs fs') (name : String) :
    Option.Rel (V.Finds R.inner) (Lookup.scopedEntry inspection fs name)
      (Lookup.scopedEntry inspection fs' name) := by
  refine Lookup.scopedEntry_corresponds ?_ (hf.imp fun f f' hff => ⟨hff.1, h _ _ hff.2⟩) name
  exact Lookup.inner?_corresponds fun es es' hes => h es es' (R.outer_of_inner hes)

/-- Whole reads take the same course. -/
theorem read_ends {V : Vocabulary} {watch : Watch} {setup setup' : Setup} {i : Input}
    (C : Courses L ((rooted R).link L modes) V watch R.inner setup setup')
    (hafter : L.after = none)
    (hb : L.Limited .expansionOverflow (setup.settings.budget 0) (setup'.settings.budget 0))
    (hi : V.Knows i) (hm : modes setup.settings.mode setup'.settings.mode) (hl : L.rel [] []) :
    (L.Ends fun e e' => ∃ line es es', e = .dictionary ⟨i.name, false, 1, line⟩ es ∧
        e' = .dictionary ⟨i.name, false, 1, line⟩ es' ∧ R.outer es es')
      (Watched.read watch setup i) (Reader.read setup' i) := by
  have h := (C.entries (x := .outermost) hb hi 0 none []).ends (Reader.start setup)
    (Reader.start setup')
    ⟨.outermost ⟨[], [], [], [], rfl, rfl, R.outer_of_inner R.nil⟩, hm, hl⟩
  rw [Reader.watched_eq, Reader.read_eq]
  generalize exec (Watched.entries watch setup 0 0 none [] i) (Reader.start setup) = p,
    exec (Reader.entries setup' 0 0 none [] i) (Reader.start setup') = p' at h ⊢
  cases h with
  | ok hab hs =>
    obtain ⟨hscope, -, hl⟩ := hs
    refine .ok ⟨_, _, _, rfl, ?_, hscope.entries⟩ hl
    rw [Reader.made, hab.rest]
  | error hf => exact .error hf
  | parted hf hp => exact .parted hf (.of_none hafter)

/-- The entries of all dictionaries correspond in one way. -/
def Root.uniform (R : List Entry → List Entry → Prop) (nil : R [] [])
    (filter : ∀ {es es' : List Entry}, R es es' → ∀ keep : String → Bool,
      R (es.filter fun e => keep e.keyword) (es'.filter fun e => keep e.keyword)) : Root :=
  ⟨R, R, nil, filter, filter, id⟩

variable {R} in
theorem membersOf_rooted (h : R.outer = R.inner) : (rooted R).membersOf x = R.inner := by
  cases x with
  | outermost => exact h
  | _ => rfl

end Framing

end CaseDict
