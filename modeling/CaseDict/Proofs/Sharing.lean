import CaseDict.Proofs.Courses
import CaseDict.Proofs.Values
/-! # Two reads of one dictionary

Two reads that make the same dictionary (`Link.sharing`) take the same course as soon as expansion
does in it and entries are placed alike: entering and leaving dictionaries and blocks, copying and
removing entries are the same then. Both keep a property of all values in the dictionary and in
those around it. -/

namespace CaseDict

open Expansion Statement Entry

/-- The scopes of two reads are the same and carry `V`, and their modes and logs are related. -/
def Link.sharing (L : Link (List Event)) (V : List Token → Prop)
    (modes : InputMode → InputMode → Prop) : Link ReadState where
  rel s s' := s.scope = s'.scope ∧ s.scope.Carries V ∧ modes s.mode s'.mode ∧ L.rel s.log s'.log
  shares := L.shares
  parts := L.parts
  after := L.after.map fun after s => s.scope.Carries V ∧ after s.log

namespace Entry

variable {V : List Token → Prop} {e e' : Entry}

/-- The entries of both reads are the same and carry `V`. -/
abbrev SameCarry (V : List Token → Prop) : List Entry → List Entry → Prop := Same (AllCarry V)

theorem SameCarry.nil (V : List Token → Prop) : SameCarry V [] [] := ⟨rfl, List.forall_mem_nil _⟩

theorem SameCarry.filter {es es' : List Entry} (h : SameCarry V es es') (keep : String → Bool) :
    SameCarry V (es.filter fun e => keep e.keyword) (es'.filter fun e => keep e.keyword) :=
  ⟨by rw [h.1], forall_mem_filter h.2 _⟩

theorem Alike.refl {heading : Heading → Heading → Prop} (hh : ∀ h, heading h h)
    (he : e.Carries V) : Alike heading V (SameCarry V) e e := by
  cases e with
  | primitive => exact .primitive (hh _) (carries_primitive.mp he)
  | dictionary => exact .dictionary (hh _) ⟨rfl, carries_dictionary.mp he⟩

theorem Alike.same {heads : Heading → Prop} (h : Alike (Same heads) V (SameCarry V) e e') :
    Same (Carries V) e e' := by
  cases h with
  | primitive hh hts => exact ⟨hh.1 ▸ rfl, carries_primitive.mpr hts⟩
  | dictionary hh hes => exact ⟨hh.1 ▸ hes.1 ▸ rfl, carries_dictionary.mpr hes.2⟩

end Entry

variable {L : Link (List Event)} {V : Vocabulary} {modes : InputMode → InputMode → Prop}

theorem Link.Limited.sharing {ν : Type} [LE ν] {c : ErrorClass} {limit limit' : ν}
    (h : L.Limited c limit limit') (V : List Token → Prop) :
    (L.sharing V modes).Limited c limit limit' :=
  h.imp_right fun ⟨hle, hl⟩ => ⟨hle, hl.parts, by simp [Link.sharing, hl.after]⟩

theorem exec_place_carries {V : List Token → Prop} {s : ReadState} (hs : s.scope.Carries V)
    (e : Entry) :
    exec (Statement.place e) s = match e.place s.mode s.scope.entries with
      | .ok p => (.ok p.placed,
          { s with scope := s.scope.refill p.entries, log := s.log ++ p.events })
      | .error f => (.error f, s) := by
  rw [exec_place, hs.place_eq]
  cases e.place s.mode s.scope.entries <;> rfl

namespace Follows

variable {σ α β : Type} {m m' : ReadM α} {post : α → α → Prop} {V : List Token → Prop}

theorem inDictionary (h : Follows (L.sharing V modes) m m' post) :
    Follows (L.sharing V modes) (inDictionary m) (inDictionary m')
      fun p q => post p.1 q.1 ∧ SameCarry V p.2 q.2 := by
  refine .between (fun s => { s with scope := s.scope.inner })
    (fun s t => (t.scope.entries, { t with scope := s.scope })) h
    (fun _ => exec_inDictionary m) (fun _ => exec_inDictionary m') ?_ ?_ (fun _ => ⟨id, id⟩) ?_
  · rintro s s' ⟨hscope, hcarries, hrest⟩
    exact ⟨congrArg Scope.inner hscope, hcarries.inner, hrest⟩
  · rintro s s' t t' ⟨hscope, hcarries, -⟩ ⟨hinside, hinner, hrest⟩
    exact ⟨⟨hscope, hcarries, hrest⟩, congrArg Scope.entries hinside, hinner.entries⟩
  · intro after ha
    obtain ⟨after, -, rfl⟩ := Option.map_eq_some_iff.mp ha
    refine ⟨_, ha, fun s hs => ⟨hs.1.inner, hs.2⟩, fun s t hs ht => ?_⟩
    refine ⟨⟨?_, ht.2⟩, _, rfl, ht.1.entries⟩
    rcases hs with hs | ⟨s', hscope, hcarries, -⟩
    · exact hs.1
    · exact hscope ▸ hcarries

/-- What is left of a state when a block is complete, and the entries of the block. -/
def leaveBlock (t : ReadState) : List Entry × ReadState :=
  match t.scope with
  | .staged es below => (es, { t with scope := below })
  | _ => ([], t)

theorem exec_inBlock_eq (m : ReadM α) (s : ReadState) :
    exec (Statement.inBlock m) s =
      ((exec m { s with scope := .staged [] s.scope }).1.map
        (·, (leaveBlock (exec m { s with scope := .staged [] s.scope }).2).1),
      (leaveBlock (exec m { s with scope := .staged [] s.scope }).2).2) := by
  rw [exec_inBlock]
  rcases exec m { s with scope := .staged [] s.scope } with ⟨r, ⟨scope, mode, log⟩⟩
  cases scope <;> rfl

theorem carries_leaveBlock {t : ReadState} (h : t.scope.Carries V) :
    (leaveBlock t).2.scope.Carries V ∧ AllCarry V (leaveBlock t).1 := by
  obtain ⟨scope, mode, log⟩ := t
  cases scope with
  | stored => contradiction
  | fresh es around removed => exact ⟨h, List.forall_mem_nil _⟩
  | staged es below => exact ⟨h.2, h.1⟩

theorem leaveBlock_log (t : ReadState) :
    (leaveBlock t).2.log = t.log ∧ (leaveBlock t).2.mode = t.mode := by
  unfold leaveBlock
  split <;> exact ⟨rfl, rfl⟩

theorem leaveBlock_scope {t t' : ReadState} (h : t.scope = t'.scope) :
    (leaveBlock t).1 = (leaveBlock t').1 ∧ (leaveBlock t).2.scope = (leaveBlock t').2.scope := by
  unfold leaveBlock
  rw [← h]
  split
  · exact ⟨rfl, rfl⟩
  · exact ⟨rfl, h⟩

theorem inBlock (h : Follows (L.sharing V modes) m m' post) :
    Follows (L.sharing V modes) (inBlock m) (inBlock m')
      fun p q => post p.1 q.1 ∧ SameCarry V p.2 q.2 := by
  refine .between (fun s => { s with scope := .staged [] s.scope }) (fun _ t => leaveBlock t) h
    (exec_inBlock_eq m) (exec_inBlock_eq m') ?_ ?_ (fun _ => ⟨id, id⟩) ?_
  · rintro s s' ⟨hscope, hcarries, hrest⟩
    exact ⟨congrArg (Scope.staged []) hscope, ⟨List.forall_mem_nil _, hcarries⟩, hrest⟩
  · rintro s s' t t' - ⟨hscope, hcarries, hmode, hlog⟩
    obtain ⟨hbelow, hes⟩ := carries_leaveBlock hcarries
    obtain ⟨hsame, hsame'⟩ := leaveBlock_scope hscope
    refine ⟨⟨hsame', hbelow, ?_⟩, hsame, hes⟩
    rw [(leaveBlock_log t).1, (leaveBlock_log t).2, (leaveBlock_log t').1, (leaveBlock_log t').2]
    exact ⟨hmode, hlog⟩
  · intro after ha
    obtain ⟨after, -, rfl⟩ := Option.map_eq_some_iff.mp ha
    refine ⟨_, ha, fun s hs => ⟨⟨List.forall_mem_nil _, hs.1⟩, hs.2⟩, fun s t _ ht => ?_⟩
    obtain ⟨hbelow, hes⟩ := carries_leaveBlock ht.1
    exact ⟨⟨hbelow, (leaveBlock_log t).1 ▸ ht.2⟩, _, rfl, hes⟩

/-! ### Looking up and removing -/

variable {setup setup' : Setup}

theorem expanding {act act' : Context → ExpandM α}
    (h : ∀ frames, (∀ f ∈ frames, AllCarry V f.entries) →
      Follows L (act ⟨setup, frames⟩) (act' ⟨setup', frames⟩) post) :
    Follows (L.sharing V modes) (expanding setup act) (expanding setup' act') post := by
  constructor
  · rintro s s' ⟨hscope, hcarries, hmode, hlog⟩
    have h := (h _ hcarries.frames).ends _ _ hlog
    rw [exec_expanding, exec_expanding, ← congrArg Scope.frames hscope]
    generalize exec (act ⟨setup, s.scope.frames⟩) s.log = p,
      exec (act' ⟨setup', s.scope.frames⟩) s'.log = p' at h ⊢
    cases h with
    | ok hab hl => exact .ok hab ⟨hscope, hcarries, hmode, hl⟩
    | error hf => exact .error hf
    | parted hf hp =>
      refine .parted hf fun after ha => ?_
      obtain ⟨after, ha', rfl⟩ := Option.map_eq_some_iff.mp ha
      obtain ⟨hl, hr⟩ := hp after ha'
      exact ⟨⟨hscope ▸ hcarries, hl⟩, hr⟩
  · intro after ha s hs after' ha'
    obtain rfl := Option.some.inj (ha.symm.trans ha')
    obtain ⟨after, ha'', rfl⟩ := Option.map_eq_some_iff.mp ha
    obtain ⟨hl, hr⟩ := (h _ hs.1.frames).stays after ha'' _ hs.2 after ha''
    rw [exec_expanding]
    exact ⟨⟨hs.1, hl⟩, hr⟩

theorem rel_find? {heading : Heading → Heading → Prop} (hh : ∀ h, heading h h)
    {s s' : Surroundings} (h : ∀ f ∈ s.frames, AllCarry V f.entries) (hs : s.frames = s'.frames)
    (name : String) :
    Option.Rel (Entry.Alike heading V (SameCarry V)) (s.find? name) (s'.find? name) := by
  have hsame : s.find? name = s'.find? name :=
    congrArg (Lookup.scopedEntry Entry.inspection · name) hs
  rw [← hsame]
  cases hf : s.find? name with
  | none => exact .none
  | some e => exact .some (.refl hh (Lookup.scopedEntry_has carries_hereditary.inner h hf))

/-- A change of the scope that keeps what it carries. -/
theorem rescoping {g : Scope → Scope} (h : ∀ s : Scope, s.Carries V → (g s).Carries V) :
    Follows (L.sharing V modes) (modify fun s => { s with scope := g s.scope })
      (modify fun s => { s with scope := g s.scope }) Any := by
  refine .changing ?_ fun after ha s hs => ?_
  · rintro s s' ⟨hscope, hcarries, hrest⟩
    exact ⟨congrArg g hscope, h _ hcarries, hrest⟩
  · obtain ⟨after, -, rfl⟩ := Option.map_eq_some_iff.mp ha
    exact ⟨h _ hs.1, hs.2⟩

/-- A change to related modes. -/
theorem setting {mode mode' : InputMode} (h : modes mode mode') :
    Follows (L.sharing V modes) (modify fun s => { s with mode })
      (modify fun s => { s with mode := mode' }) Any := by
  refine .changing ?_ fun after ha s hs => ?_
  · rintro s s' ⟨hscope, hcarries, -, hlog⟩
    exact ⟨hscope, hcarries, h, hlog⟩
  · obtain ⟨after, -, rfl⟩ := Option.map_eq_some_iff.mp ha
    exact hs

/-! ### Placing -/

/-- Entries are placed alike if each of them is. -/
theorem placingEach {S : Link ReadState} {P : Entry → Prop}
    (hplace : ∀ e : Entry, P e → Follows S (place e) (place e) Any) {es : List Entry}
    (hes : ∀ e ∈ es, P e) : Follows S (placeEach es) (placeEach es) Any := by
  induction es with
  | nil => exact .pure trivial
  | cons e es ih =>
    obtain ⟨he, hes⟩ := List.forall_mem_cons.mp hes
    unfold Statement.placeEach
    exact .bind (hplace e he) fun _ _ _ => .bind (ih hes) fun _ _ _ => .pure trivial

/-- If redefinitions are errors in both modes or in neither, the entries of a statement are placed
alike if each of them is. -/
theorem placingAll (hmodes : ∀ mode mode', modes mode mode' → (mode = .error ↔ mode' = .error))
    (hshares : ∀ f, L.shares f) (hafter : L.after = none)
    (hplace : ∀ e : Entry, e.Carries V → Follows (L.sharing V modes) (place e) (place e) Any)
    {es : List Entry} (hes : AllCarry V es) :
    Follows (L.sharing V modes) (placeAll es) (placeAll es) Any where
  ends := by
    rintro ⟨scope, mode, log⟩ ⟨_, mode', log'⟩ ⟨rfl, hcarries, hmode, hlog⟩
    have heach := (placingEach hplace hes).ends ⟨scope, mode, log⟩ ⟨scope, mode', log'⟩
      ⟨rfl, hcarries, hmode, hlog⟩
    unfold Statement.placeAll
    rw [exec_bind, exec_get, exec_bind, exec_get]
    dsimp only at hmode ⊢
    by_cases hm : mode = .error
    · rw [if_pos hm, if_pos ((hmodes _ _ hmode).mp hm), exec_bind, exec_lift, exec_bind, exec_lift]
      cases checkNew (firstLines scope.entries) es with
      | error f => exact .error (hshares f)
      | ok => exact heach
    · rw [if_neg hm, if_neg fun h => hm ((hmodes _ _ hmode).mpr h)]
      exact heach
  stays after ha := by
    rw [Link.sharing, hafter] at ha
    contradiction

/-- In one mode an entry is placed alike. -/
theorem placing {parts : Failure → Prop} {e : Entry}
    (hmodes : ∀ mode mode', modes mode mode' → mode = mode') (he : e.Carries V) :
    Follows ((Link.upTo parts).sharing V modes) (place e) (place e) Any where
  ends := by
    rintro ⟨scope, mode, log⟩ ⟨_, mode', _⟩ ⟨rfl, hcarries, hmode, rfl⟩
    obtain rfl : mode = mode' := hmodes _ _ hmode
    have hkeeps := hcarries.place he mode
    rw [exec_place]
    dsimp only
    rcases hp : scope.place mode e with ⟨_ | ⟨placed, events⟩, scope'⟩
    · exact .error trivial
    · rw [hp] at hkeeps
      exact .ok trivial ⟨rfl, hkeeps, hmode, rfl⟩
  stays after ha := by contradiction

end Follows

/-- Two reads of one dictionary take the same course; the first one may be stopped. -/
abbrev SharedCourses (L : Link (List Event)) (V : Vocabulary)
    (modes : InputMode → InputMode → Prop) (setup setup' : Setup) (watch : Watch := .never) :
    Prop :=
  Courses L (fun _ : Unit => L.sharing V.stands modes) V watch (SameCarry V.stands) setup setup'

/-- A read that is stopped leaves the other one. -/
def Link.Stops {σ : Type} (L : Link σ) (watch : Watch) : Prop :=
  ∀ n t, watch n t = true → L.parts Watch.stopped ∧ L.after = none

/-- Both runs are in the same state until the first is stopped. -/
def Link.unstopped {σ : Type} : Link σ := .upTo (· = Watch.stopped)

theorem Link.stops_never {σ : Type} {L : Link σ} : L.Stops .never :=
  fun _ _ hw => absurd hw Bool.false_ne_true

/-- Two reads of one dictionary take the same course if they place entries alike. -/
theorem SharedCourses.of_place {setup setup' : Setup} {watch : Watch} (hwatch : L.Stops watch)
    (hpatterns : V.patterns) (hsetup : setup.Alike L V setup')
    (hnesting : L.Limited .nestingExceeded setup.settings.maxNesting setup'.settings.maxNesting)
    (hwithin : ∀ f name, L.parts f → L.parts (f.within name))
    (hshares : ∀ f name, L.shares f → L.shares (f.within name))
    (haround : ∀ frames, (∀ f ∈ frames, AllCarry V.stands f.entries) →
      Surroundings.Alike L V ⟨frames, setup.settings.environment⟩
        ⟨frames, setup'.settings.environment⟩)
    (hplace : ∀ e, e.Carries V.stands →
      Follows (L.sharing V.stands modes) (Statement.place e) (Statement.place e) Any)
    (hplaceAll : ∀ es, AllCarry V.stands es →
      Follows (L.sharing V.stands modes) (Statement.placeAll es) (Statement.placeAll es) Any)
    (hmode : ∀ t name, V.plain t → t.symbol = .directive name →
      setup'.registry.find? name = some .inputMode →
        modes setup.settings.mode setup'.settings.mode ∧ ∀ mode, modes mode mode) :
    SharedCourses L V modes setup setup' watch where
  setups := hsetup
  nesting _ := (hnesting.sharing _).nested
  parts h _ := h
  after h _ := by simp [Link.sharing, h]
  within name h := hwithin _ name h
  shared _ := hsetup.shared
  shares_within name h := hshares _ name h
  shares h _ := h
  stopped hw _ := by
    obtain ⟨hparts, hafter⟩ := hwatch _ _ hw
    exact ⟨hparts, by simp [Link.sharing, hafter]⟩
  quoted _ _ := hpatterns
  expanding h := .expanding fun frames hf => h frames frames (haround frames hf)
  finds h name _ := by
    obtain ⟨hscope, hcarries, -⟩ := h
    exact .inl (Follows.rel_find? (fun _ => ⟨rfl, fun _ => hpatterns⟩) hcarries.frames
      (congrArg Scope.frames hscope) name)
  finds_after ha s hs name _ := by
    obtain ⟨after, -, rfl⟩ := Option.map_eq_some_iff.mp ha
    exact Follows.rel_find? (fun _ => ⟨rfl, fun _ => hpatterns⟩) hs.1.frames rfl name
  checks h := by rw [h.1]
  nil := .nil _
  inDictionary h := .inDictionary (h ())
  inBlock h := .inBlock (h ())
  place h := by
    obtain ⟨rfl, he⟩ := h.same
    exact hplace _ he
  placeAll h := by
    obtain ⟨rfl, hes⟩ := h
    exact hplaceAll _ hes
  remove hf what := .bind (.rescoping fun s hs => hs.remove what) fun _ _ _ => .throw hf
  removeThrough what := .rescoping fun s hs => hs.removeThrough what
  mode ht hs hd _ := by
    obtain ⟨hdefault, hmodes⟩ := hmode _ _ ht hs hd
    exact ⟨.setting hdefault, fun mode => .setting (hmodes mode)⟩

/-- Two reads that place entries in the same mode. -/
theorem SharedCourses.of_mode {setup setup' : Setup} {watch : Watch} {parts : Failure → Prop}
    (hwatch : (Link.upTo parts : Link (List Event)).Stops watch) (hpatterns : V.patterns)
    (hsetup : setup.Alike (.upTo parts) V setup')
    (hnesting : (Link.upTo parts : Link (List Event)).Limited .nestingExceeded
      setup.settings.maxNesting setup'.settings.maxNesting)
    (hwithin : ∀ f name, parts f → parts (f.within name))
    (haround : ∀ frames, (∀ f ∈ frames, AllCarry V.stands f.entries) →
      Surroundings.Alike (.upTo parts) V ⟨frames, setup.settings.environment⟩
        ⟨frames, setup'.settings.environment⟩)
    (hmode : setup.settings.mode = setup'.settings.mode) :
    SharedCourses (.upTo parts) V Eq setup setup' watch :=
  .of_place hwatch hpatterns hsetup hnesting hwithin (fun _ _ _ => trivial) haround
    (fun _ he => .placing (fun _ _ h => h) he)
    (fun _ hes => .placingAll (by rintro _ _ rfl; rfl) (fun _ => trivial) rfl
      (fun _ he => .placing (fun _ _ h => h) he) hes)
    fun _ _ _ _ _ => ⟨hmode, fun _ => rfl⟩

/-- Surroundings in which all values are expanded, beside themselves. -/
theorem Surroundings.Alike.of_carries {s : Surroundings} (hshared : V.Shared L)
    (hs : ∀ f ∈ s.frames, AllCarry V.stands f.entries)
    (hexpanded : ∀ ts, V.stands ts → ∀ t ∈ ts, t.symbol.isMacro = false)
    (henv : ∀ name text line ts, s.environmentText? name = some text →
      environmentTokens name text line = .ok ts →
        if ts.any (·.symbol.isMacro) then (∀ t ∈ ts, V.plain t) ∧ V.Whole else V.stands ts) :
    s.Alike L V s where
  text _ _ _ := .refl (fun _ _ => ⟨rfl, trivial⟩) fun _ hf =>
    hshared _ (V.fails_of (isDuplicate_of_text hf))
  tokens name _ line := by
    refine .refl (fun ts hts => ⟨rfl, ?_⟩) fun f hf =>
      hshared f (V.fails_of (isDuplicate_of_tokens hf))
    unfold Surroundings.tokens at hts
    split at hts
    · next hf =>
      obtain rfl := Except.ok.inj hts
      have hv := carries_primitive.mp (Lookup.scopedEntry_has carries_hereditary.inner hs hf)
      rw [if_neg]
      · exact hv
      · simpa using hexpanded _ hv
    · contradiction
    · split at hts
      · next htext => exact henv _ _ _ _ htext hts
      · contradiction

/-! ### Whole reads -/

namespace Reader

/-- The state a read begins in. -/
def start (setup : Setup) : ReadState := ⟨.fresh [] [], setup.settings.mode, []⟩

/-- The dictionary that is made of what was read. -/
def made (i : Input) (s : ReadState) (p : Taken (Option Token) i) : Entry :=
  .dictionary ⟨i.name, false, 1, p.2.input.line⟩ s.scope.entries

theorem read_eq (setup : Setup) (i : Input) :
    read setup i = ((exec (entries setup 0 0 none [] i) (start setup)).1.map
      (made i (exec (entries setup 0 0 none [] i) (start setup)).2),
      (exec (entries setup 0 0 none [] i) (start setup)).2.log) := rfl

theorem watched_eq (watch : Watch) (setup : Setup) (i : Input) :
    Watched.read watch setup i =
      ((exec (Watched.entries watch setup 0 0 none [] i) (start setup)).1.map
        (made i (exec (Watched.entries watch setup 0 0 none [] i) (start setup)).2),
        (exec (Watched.entries watch setup 0 0 none [] i) (start setup)).2.log) := rfl

/-- Whole reads take the same course, also if the first one is watched. -/
theorem watched_ends {setup setup' : Setup} {watch : Watch} {i : Input}
    (C : SharedCourses L V modes setup setup' watch)
    (hb : L.Limited .expansionOverflow (setup.settings.budget 0) (setup'.settings.budget 0))
    (hi : V.Knows i) (hm : modes setup.settings.mode setup'.settings.mode)
    (hl : L.rel [] []) :
    L.Ends (Same (Entry.Carries V.stands)) (Watched.read watch setup i) (read setup' i) := by
  have h := (C.entries (x := ()) hb hi 0 none []).ends (start setup) (start setup')
    ⟨rfl, Scope.carries_nil, hm, hl⟩
  rw [watched_eq, read_eq]
  generalize exec (Watched.entries watch setup 0 0 none [] i) (start setup) = p,
    exec (entries setup' 0 0 none [] i) (start setup') = p' at h ⊢
  cases h with
  | ok hab hs =>
    obtain ⟨hscope, hcarries, -, hl⟩ := hs
    refine .ok ⟨?_, carries_dictionary.mpr hcarries.entries⟩ hl
    rw [made, made, ← hscope, hab.rest]
  | error hf => exact .error hf
  | parted hf hp =>
    refine .parted hf fun after ha => ?_
    obtain ⟨⟨hcarries, hl⟩, -⟩ := hp _ (Option.map_eq_some_iff.mpr ⟨after, ha, rfl⟩)
    refine ⟨hl, fun b hb => ?_⟩
    obtain ⟨_ | q, s'⟩ := p'
    · contradiction
    · obtain rfl := Except.ok.inj hb
      exact ⟨_, rfl, carries_dictionary.mpr hcarries.entries⟩

/-- Whole reads take the same course. -/
theorem read_ends {setup setup' : Setup} {i : Input} (C : SharedCourses L V modes setup setup')
    (hb : L.Limited .expansionOverflow (setup.settings.budget 0) (setup'.settings.budget 0))
    (hi : V.Knows i) (hm : modes setup.settings.mode setup'.settings.mode) (hl : L.rel [] []) :
    L.Ends (Same (Entry.Carries V.stands)) (read setup i) (read setup' i) := by
  have h := watched_ends C hb hi hm hl
  rwa [Watched.read_never] at h

/-- Reads that are in the same state until they part come to the same, unless they part. -/
theorem read_of_courses {setup setup' : Setup} {i : Input} {parts : Failure → Prop}
    (C : SharedCourses (.upTo parts) V Eq setup setup')
    (hb : (Link.upTo parts : Link (List Event)).Limited .expansionOverflow
      (setup.settings.budget 0) (setup'.settings.budget 0))
    (hi : V.Knows i) (hm : setup.settings.mode = setup'.settings.mode)
    (h : ∀ f, (read setup i).1 = .error f → ¬parts f) :
    (read setup' i).1 = (read setup i).1 := by
  have hends := read_ends C hb hi hm rfl
  generalize read setup i = p, read setup' i = p' at h hends ⊢
  cases hends with
  | ok hsame => rw [hsame.1]
  | error => rfl
  | parted hf => exact absurd hf (h _ rfl)

end Reader

end CaseDict
