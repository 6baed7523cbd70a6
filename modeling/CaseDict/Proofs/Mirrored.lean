import CaseDict.Proofs.Courses
import CaseDict.Proofs.Mirroring
/-! # A text read in place

Every step of reading is mirrored in place, so a text that is read in place gives a stored tree that
is the one read, with the same events, or the same failure. -/

namespace CaseDict

open Expansion Statement Entry Workspace

variable {α β γ δ : Type}

theorem Scope.IsOpen.frames_eq {s : Scope} (hs : s.IsOpen) :
    ∃ t fs, s.frames = ⟨s.entries, t⟩ :: fs := by
  cases s with
  | stored => exact hs.elim
  | fresh | staged => exact ⟨_, _, rfl⟩

namespace InPlace

variable {s : Site}

theorem exec_place (r : Ref) : exec (place r) s =
    match exec (Workspace.place s.mode s.dictionary r) s.workspace with
    | (.ok (placed, events), workspace) =>
      (.ok placed, { s with workspace, log := s.log ++ events })
    | (.error f, workspace) => (.error f, { s with workspace }) := by
  simp only [place, exec_bind, exec_get, exec_change]
  rcases exec (Workspace.place s.mode s.dictionary r) s.workspace with ⟨_ | ⟨_, _⟩, _⟩ <;> rfl

end InPlace

namespace Mirrors

variable {chain : List Ref} {es es' : List Entry} {rs rs' : List Ref} {e : Entry} {r : Ref}
  {post : γ → δ → List Entry → List Ref → Prop}

/-! ### Placing -/

theorem place_bind {k : List Entry → ReadM γ} {k' : List Ref → InPlace.SiteM δ}
    (hk : ∀ a b, Mirrors chain es rs (k a) (k' b) post) :
    Mirrors chain (e :: es) (r :: rs) (place e >>= k) (InPlace.place r >>= k') post := by
  intro s s' hp
  rw [exec_bind, exec_bind, exec_place, InPlace.exec_place, hp.mode]
  obtain ⟨owned, loose, hs, ⟨first, others, rfl, hr, -, hl⟩, hn⟩ := hp.stored
  obtain ⟨outer, rfl⟩ := hp.innermost
  rw [← add_assoc] at hn
  obtain ⟨hn', -, hdisj⟩ := Multiset.nodup_add.mp hn
  have hplace := Scope.place_stacks s.mode hp.isOpen hs hr hn'
  rcases hx : s.scope.place s.mode e with ⟨f | ⟨placed, events⟩, scope⟩
  · rw [hx] at hplace
    obtain ⟨ws', hx'⟩ := hplace
    rw [hx']
    exact .error hp.log
  · rw [hx] at hplace
    obtain ⟨refs, ws', owned', hx', ho, hs', ht⟩ := hplace
    rw [hx']
    refine hk placed refs _ _ ⟨rfl, ?_, ho, ⟨outer, rfl⟩, owned', others, hs', ht.ownsAll hl hdisj, ?_⟩
    · rw [hp.log]
    · exact (ht.frame hl.lt hn).nodup

/-- The results of placing are not looked at. -/
theorem placeEach_bind {k : List Entry → ReadM γ} {k' : List Ref → InPlace.SiteM δ}
    (hk : ∀ a b, Mirrors chain [] [] (k a) (k' b) post) :
    Mirrors chain es rs (placeEach es >>= k) (InPlace.placeEach rs >>= k') post := by
  induction es generalizing rs k k' with
  | nil =>
    cases rs with
    | nil => exact hk [] []
    | cons =>
      rintro s s' ⟨-, -, -, -, owned, loose, -, hl, -⟩
      exact hl.elim
  | cons e es ih =>
    cases rs with
    | nil =>
      rintro s s' ⟨-, -, -, -, owned, loose, -, hl, -⟩
      exact hl.elim
    | cons r rs =>
      unfold placeEach InPlace.placeEach
      simp only [bind_assoc, pure_bind]
      exact .place_bind fun a b => ih fun a' b' => hk _ _

theorem placeAll_bind {k : List Entry → ReadM γ} {k' : List Ref → InPlace.SiteM δ}
    (hk : ∀ a b, Mirrors chain [] [] (k a) (k' b) post) :
    Mirrors chain es rs (placeAll es >>= k) (InPlace.placeAll rs >>= k') post := by
  intro s s' hp
  have htrees : (s'.workspace.members s'.dictionary).map s'.workspace.tree = s.scope.entries ∧
      rs.map s'.workspace.tree = es := by
    obtain ⟨outer, rfl⟩ := hp.innermost
    obtain ⟨owned, loose, hs, hl, hn⟩ := hp.stored
    obtain ⟨hs', hl', -⟩ := Multiset.nodup_add.mp hn
    have hmap := hs.map_eq hs'
    obtain ⟨t, fs, hf⟩ := hp.isOpen.frames_eq
    rw [hf] at hmap
    exact ⟨congrArg Frame.entries (List.cons.inj hmap).1, hl.tree hl'⟩
  have hplace : Mirrors chain es rs (placeEach es >>= k) (InPlace.placeEach rs >>= k') post :=
    .placeEach_bind hk
  rw [exec_bind, exec_bind, placeAll, InPlace.placeAll, exec_bind, exec_bind]
  simp only [exec_get, hp.mode, htrees]
  rw [← exec_bind, ← exec_bind]
  by_cases hm : s.mode = .error
  · rw [if_pos hm, if_pos hm]
    simp only [bind_assoc]
    exact Mirrors.lift_bind (fun _ _ => hplace) s s' hp
  · rw [if_neg hm, if_neg hm]
    exact hplace s s' hp

end Mirrors

namespace InPlace

variable {s : Site}

theorem exec_find? (name : String) :
    exec (find? name) s = (.ok (s.workspace.scopedEntry s.dictionary name), s) := rfl

theorem exec_clone (r : Ref) (keyword : Option String) : exec (clone r keyword) s =
    match s.workspace.clone r keyword with
    | .ok (copy, workspace) => (.ok copy, { s with workspace })
    | .error f => (.error f, s) := by
  simp only [clone, exec_change, exec_bind, exec_get, exec_lift]
  rcases s.workspace.clone r keyword with _ | ⟨copy, ws⟩ <;> rfl

/-- Copies of entries share nothing with them. -/
theorem exec_clones {around : Option Ref} {rs : List Ref} {own : Multiset Ref} {es : List Entry}
    (ho : OwnsAll s.workspace around rs own es) (hn : own.Nodup) : ∃ copies ws new,
      exec (rs.mapM (clone ·)) s = (.ok copies, { s with workspace := ws }) ∧
        OwnsAll ws none copies new es ∧ Turns s.workspace ws 0 new := by
  induction rs generalizing s own es with
  | nil =>
    cases es with
    | cons => exact ho.elim
    | nil => exact ⟨[], s.workspace, 0, rfl, rfl, .refl Multiset.nodup_zero⟩
  | cons r rs ih =>
    cases es with
    | nil => exact ho.elim
    | cons e es =>
      obtain ⟨first, others, rfl, hr, -, hrs⟩ := ho
      obtain ⟨hfirst, hothers, -⟩ := Multiset.nodup_add.mp hn
      obtain ⟨copy, ws, new, hx, hcopy, ht⟩ := clone_owns hr hfirst
      obtain ⟨copies, ws', new', hx', hcopies, ht'⟩ :=
        @ih { s with workspace := ws } others es (ht.ownsAll hrs (Multiset.zero_disjoint _)) hothers
      have hframe := ht'.frame hcopy.lt ((zero_add new).symm ▸ ht.nodup)
      rw [zero_add, add_comm] at hframe
      refine ⟨copy :: copies, ws', new + new', ?_, ⟨new, new', rfl,
        ht'.owns hcopy (Multiset.zero_disjoint _), by simp, hcopies⟩, ht.trans hframe⟩
      rw [List.mapM_cons, exec_bind, exec_clone, hx]
      simp only [exec_bind, hx']
      rfl

end InPlace

theorem exec_surroundings (setup : Setup) (s : ReadState) : exec (surroundings setup) s =
    (.ok (Context.surroundings ⟨setup, s.scope.frames⟩), s) := rfl

/-- Copies of entries that can be copied. -/
theorem exec_copies_checked {es : List Entry} (he : AllChecked es) (s : ReadState) :
    exec (es.mapM fun e => (liftM e.copy : ReadM Entry)) s = (.ok es, s) := by
  have hnone : (headingsOf es).findSome? Heading.failure? = none := by
    rw [List.findSome?_eq_none_iff]
    intro h hh
    obtain ⟨e, hmem, hh⟩ := mem_headingsOf.mp hh
    exact he e hmem h hh
  rw [exec_copies, hnone]
  rfl

namespace Mirrors

variable {chain : List Ref} {setup : Setup} {name : String} {t : Token} {i : Input}

theorem splice :
    Mirrors chain [] [] (Statement.splice setup name t i) (InPlace.splice name t i) Fetches := by
  intro s s' hp
  obtain ⟨outer, rfl⟩ := hp.innermost
  obtain ⟨owned, loose, hs, hl, hn⟩ := hp.stored
  have hfind := hs.scopedEntry (Multiset.nodup_add.mp hn).1 name
  unfold Statement.splice InPlace.splice
  rw [exec_bind, exec_bind, exec_surroundings, InPlace.exec_find?]
  simp only [Surroundings.entry, Surroundings.find?, Context.surroundings]
  generalize s'.workspace.scopedEntry s'.dictionary name = found,
    Lookup.scopedEntry Entry.inspection s.scope.frames name = found' at hfind
  cases hfind with
  | none => exact .error hp.log
  | @some target e hshows =>
    obtain ⟨own, hle, ho⟩ := hshows
    simp only [exec_bind, exec_lift, exec_get]
    cases e with
    | primitive k ts =>
      rw [ho.2.1]
      exact .error hp.log
    | dictionary k es =>
      obtain ⟨p, inner, -, rfl, rs, hnode, hes⟩ := owns_dictionary.mp ho
      rw [hnode]
      simp only [exec_bind, exec_lift]
      cases i.next with
      | error f => exact .error hp.log
      | ok following =>
        have hinner : inner.Nodup := (Multiset.nodup_cons.mp (Multiset.nodup_of_le hle
          (Multiset.nodup_add.mp hn).1)).2
        obtain ⟨copies, ws, new, hx, hcopies, ht⟩ := InPlace.exec_clones hes hinner
        have hgrow := hp.grow ht hcopies
        simp only [exec_copies_checked hes.checked, hx]
        exact .ok ⟨_, _, ⟨rfl, rfl, rfl⟩, hgrow⟩

/-- A copy of a dictionary that is in sight. -/
theorem copyDictionary {s : ReadState} {s' : Site} {h k : Heading} {target : Ref}
    {own : Multiset Ref} {es : List Entry} (hp : Pictures chain [] [] s s')
    (ho : Owns s'.workspace target own (.dictionary k es)) (hn : own.Nodup) :
    Meets (fun a b u u' => ∃ es' rs', FetchesOne a b es' rs' ∧ Pictures chain es' rs' u u')
      (exec (Statement.copyDictionary h name t k es i) s)
      (exec (InPlace.copyDictionary h name t target i) s') := by
  unfold Statement.copyDictionary InPlace.copyDictionary
  rw [exec_bind, exec_bind, exec_lift, exec_lift]
  cases i.next with
  | error f => exact .error hp.log
  | ok found =>
    dsimp only
    have hcopied (p : Taken Int i) : Meets
        (fun a b u u' => ∃ es' rs', FetchesOne a b es' rs' ∧ Pictures chain es' rs' u u')
        (exec (do
          let copy ← (Entry.dictionary { k with keyword := h.keyword } es).copy
          return (copy.withHead { copy.head with startLine := h.startLine, endLine := p.1 }, p.2)
            : ReadM (Taken Entry i)) s)
        (exec (do
          let copy ← InPlace.clone target (some h.keyword)
          let own := (← get).workspace.head copy
          InPlace.setHead copy { own with startLine := h.startLine, endLine := p.1 }
          return (copy, p.2) : InPlace.SiteM (Taken Ref i)) s') := by
      rw [exec_bind, exec_bind, exec_lift, InPlace.exec_clone]
      have hclone : s'.workspace.clone target (some h.keyword) =
          ((Entry.dictionary { k with keyword := h.keyword } es).copy).map
            (s'.workspace.plant (s'.workspace.parent target)) := by
        rw [Workspace.clone, ho.tree hn]
        rfl
      cases hc : (Entry.dictionary { k with keyword := h.keyword } es).copy with
      | error f =>
        rw [hclone, hc]
        exact .error hp.log
      | ok c =>
        obtain ⟨hchecked, rfl⟩ := copy_eq_ok.mp hc
        obtain ⟨new, hown, ht, -⟩ := plant_owns hchecked s'.workspace (s'.workspace.parent target)
        have hgrow := hp.grow ht hown.single
        have hhead := hown.head
        rw [hclone, hc]
        simp only [Except.map, exec_bind, exec_get, InPlace.exec_setHead, hhead]
        have hchecked' := @Checked.withHead _ hchecked h.startLine p.1
        exact .ok ⟨_, _, ⟨rfl, rfl, rfl⟩, hgrow.withHead (checked_dictionary.mp hchecked').1⟩
    rcases found with _ | ⟨⟨y, l⟩, rest⟩
    · exact hcopied (t.line, i.unread)
    · cases y <;> first | exact .error hp.log | exact hcopied (l, rest.toRest)

end Mirrors

theorem Heading.failure?_of_checked {h h' : Heading} (hh : h.checked = .ok h') :
    h'.failure? = none := by
  obtain ⟨hf, rfl⟩ := Heading.checked_eq_ok.mp hh
  exact hf

/-! ### Statements -/

section Statements

variable {chain : List Ref} {setup : Setup} {budget : Nat} {run : DirectiveRunner}
  {run' : InPlace.DirectiveRunner}

/-- The statements of inputs with fewer than `size` tokens are mirrored. -/
def MirroredBelow (setup : Setup) (budget : Nat) (run : DirectiveRunner)
    (run' : InPlace.DirectiveRunner) (size : Nat) : Prop :=
  ∀ (i : Input), i.size < size → ∀ chain n closing stops,
    Mirrors chain [] [] (readEntries setup budget run n closing stops i)
      (InPlace.readEntries setup budget run' n closing stops i) Alone

theorem Mirrors.readPrimitive {h : Heading} {i : Input} :
    Mirrors chain [] [] (readEntry.readPrimitive setup budget h i)
      (InPlace.readEntry.readPrimitive setup budget h i) FetchesOne := by
  unfold readEntry.readPrimitive InPlace.readEntry.readPrimitive
  refine .expanding_bind fun ⟨⟨ts, endLine⟩, rest⟩ => .lift_bind fun h' hh => ?_
  exact .store_bind (Heading.failure?_of_checked hh) fun r => .pure ⟨rfl, rfl, rfl⟩

/-- A reference to a dictionary, or to something else. -/
theorem Mirrors.dictionary_bind {name : String} {k : Surroundings → ReadM γ}
    {k' : Option Ref → InPlace.SiteM δ} {post : γ → δ → List Entry → List Ref → Prop}
    (hnone : ∀ around, (∀ h es, around.find? name ≠ some (.dictionary h es)) →
      Mirrors chain [] [] (k around) (k' none) post)
    (hsome : ∀ around target h es own s s', around.find? name = some (.dictionary h es) →
      Pictures chain [] [] s s' → Owns s'.workspace target own (.dictionary h es) → own.Nodup →
        Meets (fun a b u u' => ∃ es' rs', post a b es' rs' ∧ Pictures chain es' rs' u u')
          (exec (k around) s) (exec (k' (some target)) s')) :
    Mirrors chain [] [] (surroundings setup >>= k) (InPlace.findDictionary? name >>= k') post := by
  intro s s' hp
  obtain ⟨outer, rfl⟩ := hp.innermost
  obtain ⟨owned, loose, hs, hl, hn⟩ := hp.stored
  have hn := (Multiset.nodup_add.mp hn).1
  have hfind := hs.scopedEntry hn name
  have hx' : exec (InPlace.findDictionary? name) s' =
      (.ok ((s'.workspace.scopedEntry s'.dictionary name).filter s'.workspace.isDictionary), s') :=
    rfl
  rw [exec_bind, exec_bind, exec_surroundings, hx']
  dsimp only
  have hfound : (Context.surroundings ⟨setup, s.scope.frames⟩).find? name =
      Lookup.scopedEntry Entry.inspection s.scope.frames name := rfl
  generalize s'.workspace.scopedEntry s'.dictionary name = found,
    Lookup.scopedEntry Entry.inspection s.scope.frames name = found' at hfind hfound
  cases hfind with
  | none => exact hnone _ (fun h es => by simp [hfound]) s s' hp
  | @some target e hshows =>
    obtain ⟨own, hle, ho⟩ := hshows
    rw [Option.filter_some, ho.isDictionary]
    cases e with
    | primitive h ts => exact hnone _ (fun h es => by simp [hfound]) s s' hp
    | dictionary h es => exact hsome _ target h es own s s' hfound hp ho (Multiset.nodup_of_le hle hn)

theorem Mirrors.readEntry {n : Nat} {h : Heading} {i : Input}
    (hfill : FillingBelow setup budget run i.size)
    (hi : MirroredBelow setup budget run run' i.size) :
    Mirrors chain [] [] (readEntry setup budget run n h i)
      (InPlace.readEntry setup budget run' n h i) FetchesOne := by
  rw [readEntry.eq_def, InPlace.readEntry.eq_def]
  refine .lift_bind fun found _ => ?_
  rcases found with _ | ⟨⟨y, line⟩, rest⟩
  · refine .lift_bind fun h' hh => ?_
    exact .store_bind (Heading.failure?_of_checked hh) fun r => .pure ⟨rfl, rfl, rfl⟩
  cases y with
  | opener b =>
    cases b with
    | brace =>
      dsimp only
      split
      · exact .throw_bind _
      · refine .lift_bind fun h' hh => ?_
        refine .inDictionary_bind (hfill rest.input rest.lt _ _ _)
          (fun r => hi rest.input rest.lt _ _ _ _) fun ⟨ending, more⟩ es r => ?_
        refine ⟨{ h' with endLine := (ending.map (·.line)).getD (-1) }, _, ?_, rfl,
          .pure ⟨rfl, rfl, rfl⟩⟩
        have hh := Heading.failure?_of_checked hh
        exact hh
    | _ => exact .readPrimitive
  | reference name =>
    refine .dictionary_bind (fun around hnone => ?_)
      fun around target k es own s s' hfound hp ho hn => ?_
    · dsimp only
      split
      · next hfound => exact absurd hfound (hnone _ _)
      · exact .readPrimitive
    · rw [hfound]
      refine Mirrors.meets_bind (Mirrors.copyDictionary hp ho hn) fun p q es' rs' hpq => ?_
      obtain ⟨hrest, rfl, rfl⟩ := hpq
      exact .pure ⟨by rw [hrest], rfl, rfl⟩
  | _ => exact .readPrimitive

theorem Mirrors.readStatement {n : Nat} {t : Token} {i : Input}
    (hfill : FillingBelow setup budget run i.size)
    (hrun : ∀ chain n t i, Mirrors chain [] [] (run n t i) (run' n t i) Fetches)
    (hi : MirroredBelow setup budget run run' i.size) :
    Mirrors chain [] [] (readStatement setup budget run n t i)
      (InPlace.readStatement setup budget run' n t i) fun p q es rs =>
        p.2 = q.2 ∧ es = [] ∧ rs = [] := by
  rw [readStatement.eq_def, InPlace.readStatement.eq_def]
  refine .adapt ?_ _
  have hbatch {m : ReadM (Taken (List Entry) i)} {m' : InPlace.SiteM (Taken (List Ref) i)}
      (hm : Mirrors chain [] [] m m' Fetches) :
      Mirrors chain [] [] (do let p ← m; return (← placeAll p.1, p.2))
        (do let q ← m'; return (← InPlace.placeAll q.1, q.2)) fun p q es rs =>
          p.2 = q.2 ∧ es = [] ∧ rs = [] := by
    refine hm.bind ?_
    rintro ⟨es, rest⟩ ⟨rs, rest'⟩ _ _ ⟨hrest, rfl, rfl⟩
    exact .placeAll_bind fun _ _ => .pure ⟨hrest, rfl, rfl⟩
  have hentry (h : Heading) :
      Mirrors chain [] []
        (do let p ← Statement.readEntry setup budget run n h i; return (← place p.1, p.2))
        (do let q ← InPlace.readEntry setup budget run' n h i
            return (← InPlace.place q.1, q.2)) fun p q es rs =>
          p.2 = q.2 ∧ es = [] ∧ rs = [] := by
    refine (Mirrors.readEntry hfill hi).bind ?_
    rintro ⟨e, rest⟩ ⟨r, rest'⟩ _ _ ⟨hrest, rfl, rfl⟩
    exact .place_bind fun _ _ => .pure ⟨hrest, rfl, rfl⟩
  obtain ⟨y, line⟩ := t
  cases y with
  | directive s => exact hbatch (hrun chain n _ i)
  | reference name => exact hbatch .splice
  | word s => exact hentry _
  | quoted s => exact hentry _
  | _ => exact .throw _

theorem mirroredBelow (hfill : ∀ size, FillingBelow setup budget run size)
    (hrun : ∀ chain n t i, Mirrors chain [] [] (run n t i) (run' n t i) Fetches) (size : Nat) :
    MirroredBelow setup budget run run' size := by
  induction size with
  | zero => intro i h; omega
  | succ size ih =>
    intro i hi chain n closing stops
    rw [readEntries.eq_def, InPlace.readEntries.eq_def]
    refine .lift_bind fun found _ => ?_
    rcases found with _ | ⟨t, rest⟩
    · cases closing with
      | some h => exact .throw _
      | none => exact .pure ⟨rfl, rfl, rfl⟩
    · have hlt := rest.lt
      dsimp only
      split
      · split
        · exact .pure ⟨rfl, rfl, rfl⟩
        · exact .throw _
      split
      · refine (ih rest.input (by omega) _ _ _ _).bind ?_
        rintro ⟨ending, more⟩ _ _ _ ⟨rfl, rfl, rfl⟩
        exact .pure ⟨rfl, rfl, rfl⟩
      split
      · exact .pure ⟨rfl, rfl, rfl⟩
      · refine (Mirrors.readStatement (hfill _) hrun fun j hj => ih j (by omega)).bind ?_
        rintro ⟨placed, more⟩ ⟨placed', more'⟩ _ _ ⟨hmore, rfl, rfl⟩
        obtain rfl : more = more' := hmore
        have hle := more.le
        refine (ih more.input (by omega) _ _ _ _).bind ?_
        rintro ⟨ending, last⟩ _ _ _ ⟨rfl, rfl, rfl⟩
        exact .pure ⟨rfl, rfl, rfl⟩

end Statements

/-! ### Directives -/

section Directives

variable {chain : List Ref} {setup : Setup} {t : Token} {i : Input}

/-- Removals in the scope and in place. -/
theorem Pictures.removed {s : ReadState} {s' : Site} (hp : Pictures chain [] [] s s')
    {scope : Scope} {ws : Workspace} (ho : scope.IsOpen)
    (hs : ∀ {ds : List Ref} {owned : Multiset Ref},
      Stacks s'.workspace (s'.dictionary :: ds) owned s.scope.frames → owned.Nodup → ∃ left,
        Stacks ws (s'.dictionary :: ds) left scope.frames ∧ Turns s'.workspace ws owned left) :
    Pictures chain [] [] { s with scope } { s' with workspace := ws } := by
  obtain ⟨outer, rfl⟩ := hp.innermost
  obtain ⟨owned, loose, hstacks, hl, hn⟩ := hp.stored
  obtain ⟨left, hleft, ht⟩ := hs hstacks (Multiset.nodup_add.mp hn).1
  refine ⟨hp.mode, hp.log, ho, ⟨outer, rfl⟩, left, 0, hleft, rfl, ?_⟩
  rw [add_zero]
  exact ht.nodup

theorem Mirrors.remove {names : List Token} :
    Mirrors chain [] [] (Statement.remove t i names) (InPlace.remove t i names) Alone := by
  unfold Statement.remove InPlace.remove
  extract_lets wanted removing removing'
  split
  · exact .throw_bind _
  · intro s s' hp
    dsimp only [removing, removing']
    rw [exec_bind, exec_get]
    rcases Removal.readAll wanted with ⟨what, _ | f⟩
    · have hp' := hp.removed (hp.isOpen.removeThrough what)
        fun hs hn => Scope.removeThrough_stacks what hp.isOpen hs hn
      exact .ok ⟨[], [], ⟨rfl, rfl, rfl⟩, hp'⟩
    · exact .error hp.log

theorem Mirrors.changeMode :
    Mirrors chain [] [] (Statement.changeMode setup t i) (InPlace.changeMode setup t i) Fetches := by
  unfold Statement.changeMode InPlace.changeMode
  refine .lift_bind fun ⟨argument, rest⟩ _ => ?_
  obtain ⟨y, line⟩ := argument
  have hset (mode : InputMode) : Mirrors chain [] []
      (do modify fun s => { s with mode }; return ([], rest.toRest) : ReadM _)
      (do modify fun s => { s with mode }; return ([], rest.toRest) : InPlace.SiteM _) Fetches := by
    intro s s' hp
    exact .ok ⟨[], [], ⟨rfl, rfl, rfl⟩, rfl, hp.log, hp.isOpen, hp.innermost, hp.stored⟩
  cases y with
  | word s =>
    dsimp only
    split
    · exact hset _
    · cases InputMode.ofName? s with
      | some mode => exact hset mode
      | none => exact .throw_bind _
  | _ => exact .throw _

theorem Mirrors.conditional {entries : List String → (i : Input) → ReadM (Taken (Option Token) i)}
    {entries' : List String → (i : Input) → InPlace.SiteM (Taken (Option Token) i)}
    (hfill : ∀ stops i, Filling (entries stops i))
    (he : ∀ chain stops i, Mirrors chain [] [] (entries stops i) (entries' stops i) Alone)
    {own : Directive} {taken : Bool} :
    Mirrors chain [] [] (Statement.conditional entries own t taken i)
      (InPlace.conditional entries' own t taken i) Fetches := by
  unfold Statement.conditional InPlace.conditional
  split
  · refine .inBlock_bind (hfill _ _) (fun r => he _ _ _) fun ⟨ending, rest⟩ es rs => ?_
    cases ending with
    | none => exact .throw _
    | some found =>
      dsimp only
      split
      · exact .lift_bind fun _ _ => .pure ⟨rfl, rfl, rfl⟩
      · exact .pure ⟨rfl, rfl, rfl⟩
  · refine .lift_bind fun ⟨ending, rest⟩ _ => ?_
    dsimp only
    split
    · refine .inBlock_bind (hfill _ _) (fun r => he _ _ _) fun ⟨ending, more⟩ es rs => ?_
      cases ending with
      | none => exact .throw _
      | some found =>
        dsimp only
        split
        · exact .throw _
        · exact .pure ⟨rfl, rfl, rfl⟩
    · exact .pure ⟨rfl, rfl, rfl⟩

theorem Mirrors.runDirective (budget : Nat) : ∀ chain n t i,
    Mirrors chain [] [] (Statement.runDirective setup budget n t i)
      (InPlace.runDirective setup budget n t i) Fetches := by
  induction budget with
  | zero => intro chain n t i; exact .throw _
  | succ budget ih =>
    intro chain n t i
    have hfill (size : Nat) : FillingBelow setup budget (Statement.runDirective setup budget) size :=
      fillingBelow (.runDirective _) size
    have he (chain) (closing) (stops) (i) : Mirrors chain [] []
        (readEntries setup budget (Statement.runDirective setup budget) n closing stops i)
        (InPlace.readEntries setup budget (InPlace.runDirective setup budget) n closing stops i)
        Alone := mirroredBelow hfill ih _ i (Nat.lt_succ_self _) _ _ _ _
    have hf (closing) (stops) (i) : Filling
        (readEntries setup budget (Statement.runDirective setup budget) n closing stops i) :=
      hfill _ i (Nat.lt_succ_self _) _ _ _
    unfold Statement.runDirective InPlace.runDirective
    refine .lift_bind fun d _ => ?_
    cases d with
    | includeFile optional =>
      refine .expanding_bind ?_
      rintro ⟨found, rest⟩
      cases found with
      | none => exact .pure ⟨rfl, rfl, rfl⟩
      | some p =>
        refine .expanding_bind fun file => ?_
        exact .inBlock_bind (hf _ _ _) (fun r => he _ _ _ _) fun p es rs => .pure ⟨rfl, rfl, rfl⟩
    | ifEqual =>
      refine .expanding_bind ?_
      rintro ⟨left, first⟩
      refine .expanding_bind ?_
      rintro ⟨right, second⟩
      refine (Mirrors.conditional (fun _ _ => hf _ _ _) fun _ _ _ => he _ _ _ _).bind ?_
      rintro ⟨es, rest⟩ ⟨rs, rest'⟩ _ _ ⟨hrest, rfl, rfl⟩
      obtain rfl : rest = rest' := hrest
      exact .pure ⟨rfl, rfl, rfl⟩
    | ifTrue =>
      refine .expanding_bind ?_
      rintro ⟨condition, rest⟩
      dsimp only
      cases Switch.ofTokens condition with
      | none => exact .throw _
      | some taken =>
        refine (Mirrors.conditional (fun _ _ => hf _ _ _) fun _ _ _ => he _ _ _ _).bind ?_
        rintro ⟨es, rest⟩ ⟨rs, rest'⟩ _ _ ⟨hrest, rfl, rfl⟩
        obtain rfl : rest = rest' := hrest
        exact .pure ⟨rfl, rfl, rfl⟩
    | remove =>
      refine .expanding_bind ?_
      rintro ⟨names, rest⟩
      refine Mirrors.remove.bind ?_
      rintro ⟨⟩ ⟨⟩ _ _ ⟨-, rfl, rfl⟩
      exact .pure ⟨rfl, rfl, rfl⟩
    | inputMode => exact .changeMode
    | otherwise | endIf | calculate | negate | blank => exact .throw _

end Directives

end CaseDict
