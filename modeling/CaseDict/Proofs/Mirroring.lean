import CaseDict.Proofs.Effects
import CaseDict.Proofs.InPlace
import CaseDict.Proofs.Towers
/-! # Reading in place mirrors reading

A site pictures a state of reading (`Pictures`): the dictionaries and blocks that are open stand one
under the other and have the entries that are seen in the scope, and the entries that a statement
brings are stored apart from them. A step in place mirrors a step of reading (`Mirrors`) if it goes
from sites that picture the states before it to sites that picture those after it, and reports the
same. -/

namespace CaseDict

open Expansion Statement Entry Workspace

variable {α β γ δ : Type}

/-- The site pictures the state. The dictionaries and blocks that are open are `chain`, and the
entries at `rs`, which are the trees `es`, are apart from them. -/
structure Pictures (chain : List Ref) (es : List Entry) (rs : List Ref) (s : ReadState)
    (s' : Site) : Prop where
  mode : s'.mode = s.mode
  log : s'.log = s.log
  isOpen : s.scope.IsOpen
  innermost : ∃ outer, chain = s'.dictionary :: outer
  stored : ∃ owned loose, Stacks s'.workspace chain owned s.scope.frames ∧
    OwnsAll s'.workspace none rs loose es ∧ (owned + loose).Nodup

/-- Runs that both succeed, with results that are related, or both fail in the same way. -/
inductive Meets (post : α → β → ReadState → Site → Prop) :
    Except Failure α × ReadState → Except Failure β × Site → Prop
  | ok {a : α} {b : β} {s : ReadState} {s' : Site} (h : post a b s s') : Meets post (.ok a, s) (.ok b, s')
  | error {f : Failure} {s : ReadState} {s' : Site} (h : s'.log = s.log) :
      Meets post (.error f, s) (.error f, s')

/-- From sites that picture the state, with certain entries apart, the steps give results that are
related to each other and to the entries that are apart then. -/
def Mirrors (chain : List Ref) (es : List Entry) (rs : List Ref) (m : ReadM α)
    (m' : InPlace.SiteM β) (post : α → β → List Entry → List Ref → Prop) : Prop :=
  ∀ s s', Pictures chain es rs s s' →
    Meets (fun a b t t' => ∃ es' rs', post a b es' rs' ∧ Pictures chain es' rs' t t')
      (exec m s) (exec m' s')

/-- The results are the same and no entries are apart. -/
def Alone (a b : α) (es : List Entry) (rs : List Ref) : Prop := a = b ∧ es = [] ∧ rs = []

/-- The entries that are brought are those apart, with the same input left. -/
def Fetches (p : List Entry × γ) (q : List Ref × γ) (es : List Entry) (rs : List Ref) : Prop :=
  p.2 = q.2 ∧ es = p.1 ∧ rs = q.1

/-- The entry that is brought is the one apart, with the same input left. -/
def FetchesOne (p : Entry × γ) (q : Ref × γ) (es : List Entry) (rs : List Ref) : Prop :=
  p.2 = q.2 ∧ es = [p.1] ∧ rs = [q.1]

namespace Mirrors

variable {chain : List Ref} {es es' : List Entry} {rs rs' : List Ref} {m : ReadM α}
  {m' : InPlace.SiteM β} {k : α → ReadM γ} {k' : β → InPlace.SiteM δ}
  {mid : α → β → List Entry → List Ref → Prop} {post : γ → δ → List Entry → List Ref → Prop}

theorem pure {a : γ} {b : δ} (h : post a b es rs) :
    Mirrors chain es rs (Pure.pure a) (Pure.pure b) post := fun _ _ hp => .ok ⟨es, rs, h, hp⟩

theorem throw (f : Failure) :
    Mirrors chain es rs (MonadExcept.throw f : ReadM γ) (MonadExcept.throw f : InPlace.SiteM δ)
      post := fun _ _ hp => .error hp.log

theorem meets_bind {s : ReadState} {s' : Site}
    (h : Meets (fun a b t t' => ∃ es' rs', mid a b es' rs' ∧ Pictures chain es' rs' t t')
      (exec m s) (exec m' s'))
    (hk : ∀ a b es' rs', mid a b es' rs' → Mirrors chain es' rs' (k a) (k' b) post) :
    Meets (fun a b t t' => ∃ es' rs', post a b es' rs' ∧ Pictures chain es' rs' t t')
      (exec (m >>= k) s) (exec (m' >>= k') s') := by
  rw [exec_bind, exec_bind]
  generalize exec m s = x, exec m' s' = x' at h
  cases h with
  | ok h =>
    obtain ⟨es', rs', hmid, hp⟩ := h
    exact hk _ _ es' rs' hmid _ _ hp
  | error h => exact .error h

theorem bind (hm : Mirrors chain es rs m m' mid)
    (hk : ∀ a b es' rs', mid a b es' rs' → Mirrors chain es' rs' (k a) (k' b) post) :
    Mirrors chain es rs (m >>= k) (m' >>= k') post := fun s s' hp => meets_bind (hm s s' hp) hk

theorem throw_bind (f : Failure) :
    Mirrors chain es rs (MonadExcept.throw f >>= k) (MonadExcept.throw f >>= k') post :=
  fun _ _ hp => .error hp.log

/-- What can be computed without the state. -/
theorem lift_bind {r : Except Failure α} {k' : α → InPlace.SiteM δ}
    (hk : ∀ a, r = .ok a → Mirrors chain es rs (k a) (k' a) post) :
    Mirrors chain es rs (liftM r >>= k) (liftM r >>= k') post := by
  intro s s' hp
  rw [exec_bind, exec_bind, exec_lift, exec_lift]
  cases r with
  | error f => exact .error hp.log
  | ok a => exact hk a rfl s s' hp

theorem adapt {m : ReadM γ} {m' : InPlace.SiteM δ} (h : Mirrors chain es rs m m' post)
    (g : Failure → Failure) : Mirrors chain es rs (ExceptT.adapt g m) (ExceptT.adapt g m') post := by
  intro s s' hp
  have h := h s s' hp
  rw [exec_adapt, exec_adapt]
  generalize exec m s = x, exec m' s' = x' at h
  cases h with
  | ok h => exact .ok h
  | error h => exact .error h

/-- A step in place only. -/
theorem right {m' : InPlace.SiteM β} {k : ReadM γ}
    (hm : ∀ s s', Pictures chain es rs s s' → ∃ b t' es' rs', exec m' s' = (.ok b, t') ∧
      Pictures chain es' rs' s t' ∧ Mirrors chain es' rs' k (k' b) post) :
    Mirrors chain es rs k (m' >>= k') post := by
  intro s s' hp
  obtain ⟨b, t', es', rs', hx, hp', hk⟩ := hm s s' hp
  rw [exec_bind, hx]
  exact hk s t' hp'

/-! ### Expansion -/

theorem expanding_bind {setup : Setup} {act : Context → ExpandM α} {k' : α → InPlace.SiteM δ}
    (hk : ∀ a, Mirrors chain es rs (k a) (k' a) post) :
    Mirrors chain es rs (Statement.expanding setup act >>= k)
      (InPlace.expanding setup act >>= k') post := by
  intro s s' hp
  have hframes : (Scope.stored s'.workspace s'.dictionary []).frames = s.scope.frames := by
    obtain ⟨outer, rfl⟩ := hp.innermost
    obtain ⟨owned, loose, hs, -, hn⟩ := hp.stored
    exact hs.frames_eq (Multiset.nodup_add.mp hn).1 [] []
  have hx' : exec (InPlace.expanding setup act) s' =
      ((exec (act ⟨setup, s.scope.frames⟩) s.log).1,
        { s' with log := (exec (act ⟨setup, s.scope.frames⟩) s.log).2 }) := by
    rw [← hframes, ← hp.log]
    rfl
  rw [exec_bind, exec_bind, exec_expanding, hx']
  generalize exec (act ⟨setup, s.scope.frames⟩) s.log = x
  obtain ⟨_ | a, log⟩ := x
  · exact .error rfl
  · exact hk a _ _ ⟨hp.mode, rfl, hp.isOpen, hp.innermost, hp.stored⟩

end Mirrors

/-! ### Storing -/

namespace Pictures

variable {chain outer : List Ref} {es es' : List Entry} {rs rs' : List Ref} {s : ReadState}
  {s' : Site} {ws : Workspace} {new : Multiset Ref}

/-- New entries are apart. -/
theorem grow (hp : Pictures chain es rs s s') (ht : Turns s'.workspace ws 0 new)
    (ho : OwnsAll ws none rs' new es') :
    Pictures chain (es ++ es') (rs ++ rs') s { s' with workspace := ws } := by
  obtain ⟨owned, loose, hs, hl, hn⟩ := hp.stored
  have hlt : ∀ x ∈ owned + loose, x.index < s'.workspace.nodes.size := fun x hx =>
    (Multiset.mem_add.mp hx).elim (hs.lt x) (hl.lt x)
  have hframe := ht.frame hlt ((zero_add (owned + loose)).symm ▸ hn)
  refine ⟨hp.mode, hp.log, hp.isOpen, hp.innermost, owned, loose + new,
    hs.turns ht (Multiset.zero_disjoint _),
    (ht.ownsAll hl (Multiset.zero_disjoint _)).append ho, ?_⟩
  rw [← add_assoc, add_comm]
  exact hframe.nodup

/-- An entry apart gets another heading. -/
theorem withHead {e : Entry} {r : Ref} (hp : Pictures chain [e] [r] s s') {h : Heading}
    (hh : h.failure? = none) : Pictures chain [e.withHead h] [r] s
      { s' with workspace := s'.workspace.update r (·.withHead h) } := by
  obtain ⟨owned, loose, hs, ⟨first, others, rfl, hr, -, hnil⟩, hn⟩ := hp.stored
  obtain rfl : others = 0 := hnil
  rw [add_zero] at hn
  obtain ⟨-, hfirst, hdisj⟩ := Multiset.nodup_add.mp hn
  have ht : Turns s'.workspace (s'.workspace.update r (·.withHead h)) first first :=
    .update _ hfirst hr.mem
  exact ⟨hp.mode, hp.log, hp.isOpen, hp.innermost, owned, first, hs.turns ht hdisj.symm,
    (hr.withHead hfirst hh).single, hn⟩

/-- A dictionary or block begins. -/
theorem enter (hp : Pictures chain [] [] s s') (scope : Scope) {t : Bool} (ho : scope.IsOpen)
    (hf : scope.frames = ⟨[], t⟩ :: s.scope.frames) (h : Heading) :
    Pictures (⟨s'.workspace.nodes.size⟩ :: chain) [] [] { s with scope }
      { s' with
        workspace := (s'.workspace.alloc
          (.dictionary h { parent := some s'.dictionary, transparent := t })).2
        dictionary := ⟨s'.workspace.nodes.size⟩ } := by
  obtain ⟨outer, rfl⟩ := hp.innermost
  obtain ⟨owned, loose, hs, hl, hn⟩ := hp.stored
  obtain rfl : loose = 0 := hl
  rw [add_zero] at hn
  have ht := Turns.alloc s'.workspace
    (.dictionary h { parent := some s'.dictionary, transparent := t })
  have hframe := ht.frame hs.lt ((zero_add owned).symm ▸ hn)
  refine ⟨hp.mode, hp.log, ho, ⟨_, rfl⟩, ⟨s'.workspace.nodes.size⟩ ::ₘ 0 + owned, 0, ?_, rfl, ?_⟩
  · rw [hf]
    refine ⟨h, 0, owned, rfl, ⟨[], ?_, rfl⟩, hs.turns ht (Multiset.zero_disjoint _)⟩
    rw [node_alloc, if_pos rfl]
    rfl
  · rw [add_zero]
    exact hframe.nodup

/-- A dictionary ends. -/
theorem leave {r d : Ref} (hp : Pictures (r :: d :: outer) [] [] s s') {scope : Scope}
    (ho : scope.IsOpen) (hf : s.scope.frames = ⟨es, false⟩ :: scope.frames) {h : Heading}
    (hh : h.failure? = none) : Pictures (d :: outer) [.dictionary h es] [r] { s with scope }
      { s' with dictionary := d, workspace := s'.workspace.update r (·.withHead h) } := by
  obtain ⟨owned, loose, hs, hl, hn⟩ := hp.stored
  obtain rfl : loose = 0 := hl
  rw [add_zero] at hn
  rw [hf] at hs
  obtain ⟨k, inner, outside, rfl, hd, hs⟩ := hs
  obtain ⟨hdn, -, hdisj⟩ := Multiset.nodup_add.mp hn
  have ht : Turns s'.workspace (s'.workspace.update r (·.withHead h)) (r ::ₘ inner) (r ::ₘ inner) :=
    .update _ hdn (Multiset.mem_cons_self r inner)
  have hr : Owns (s'.workspace.update r (·.withHead h)) r (r ::ₘ inner) (.dictionary h es) :=
    owns_dictionary.mpr ⟨_, inner, hh, rfl, hd.withHead hdn h⟩
  refine ⟨hp.mode, hp.log, ho, ⟨_, rfl⟩, outside, r ::ₘ inner, hs.turns ht hdisj, hr.single, ?_⟩
  rwa [add_comm]

/-- A block ends. -/
theorem leaveBlock {r d : Ref} (hp : Pictures (r :: d :: outer) [] [] s s') {scope : Scope}
    (ho : scope.IsOpen) (hf : s.scope.frames = ⟨es, true⟩ :: scope.frames) :
    Pictures (d :: outer) es (s'.workspace.members r) { s with scope }
      { s' with dictionary := d } := by
  obtain ⟨owned, loose, hs, hl, hn⟩ := hp.stored
  obtain rfl : loose = 0 := hl
  rw [add_zero] at hn
  rw [hf] at hs
  obtain ⟨k, inner, outside, rfl, hd, hs⟩ := hs
  refine ⟨hp.mode, hp.log, ho, ⟨_, rfl⟩, outside, inner, hs, hd.members.loose, ?_⟩
  rw [Multiset.cons_add, Multiset.nodup_cons, add_comm] at hn
  exact hn.2

end Pictures

theorem Scope.IsOpen.grounded {s : Scope} (hs : s.IsOpen) : s.Grounded := by
  induction s with
  | fresh => trivial
  | staged es below ih => exact ih hs
  | stored => exact hs.elim

namespace InPlace

variable {s : Site}

theorem exec_change (act : Workspace.Change α) : exec (change act) s =
    ((exec act s.workspace).1, { s with workspace := (exec act s.workspace).2 }) := rfl

theorem exec_store (n : Node) : exec (store n) s =
    (.ok ⟨s.workspace.nodes.size⟩, { s with workspace := (s.workspace.alloc n).2 }) := rfl

theorem exec_setHead (r : Ref) (h : Heading) : exec (setHead r h) s =
    (.ok (), { s with workspace := s.workspace.update r (·.withHead h) }) := rfl

theorem exec_inside (h : Heading) (t : Bool) (act : SiteM α) : exec (inside h t act) s =
    match exec act { s with
      workspace := (s.workspace.alloc
        (.dictionary h { parent := some s.dictionary, transparent := t })).2
      dictionary := ⟨s.workspace.nodes.size⟩ } with
    | (.ok a, u) => (.ok (a, ⟨s.workspace.nodes.size⟩), { u with dictionary := s.dictionary })
    | (.error f, u) => (.error f, u) := by
  simp only [inside, exec_bind, exec_get, exec_store, exec_modify]
  rcases exec act _ with ⟨_ | a, u⟩ <;> rfl

theorem exec_inBlock (line : Int) (act : SiteM α) : exec (inBlock line act) s =
    match exec act { s with
      workspace := (s.workspace.alloc (.dictionary
        ⟨(s.workspace.head s.dictionary).keyword, false, line, -1⟩
        { parent := some s.dictionary, transparent := true })).2
      dictionary := ⟨s.workspace.nodes.size⟩ } with
    | (.ok a, u) => (.ok (a, u.workspace.members ⟨s.workspace.nodes.size⟩),
        { u with dictionary := s.dictionary })
    | (.error f, u) => (.error f, u) := by
  simp only [inBlock, exec_bind, exec_get, exec_inside]
  rcases exec act _ with ⟨_ | a, u⟩ <;> rfl

end InPlace

namespace Mirrors

variable {chain : List Ref} {es es' : List Entry} {rs rs' : List Ref} {e : Entry} {r : Ref}
  {k : α → ReadM γ} {k' : β → InPlace.SiteM δ} {post : γ → δ → List Entry → List Ref → Prop}

theorem store_bind {h : Heading} {ts : List Token} (hh : h.failure? = none) {k : ReadM γ}
    {k' : Ref → InPlace.SiteM δ}
    (hk : ∀ r, Mirrors chain (es ++ [.primitive h ts]) (rs ++ [r]) k (k' r) post) :
    Mirrors chain es rs k (InPlace.store (.primitive h ts) >>= k') post := by
  refine .right fun s s' hp => ⟨_, _, _, _, InPlace.exec_store _, hp.grow (Turns.alloc _ _) ?_, hk _⟩
  refine Owns.single ⟨?_, ?_, hh, rfl⟩
  · rw [size_alloc]
    exact Nat.lt_succ_self _
  · rw [node_alloc, if_pos rfl]

theorem inDictionary_bind {act : ReadM α} {act' : InPlace.SiteM α} {h : Heading}
    {k : α × List Entry → ReadM γ} {k' : α × Ref → InPlace.SiteM δ} (hfill : Filling act)
    (hact : ∀ r, Mirrors (r :: chain) [] [] act act' Alone)
    (hk : ∀ a es r, ∃ h k'', h.failure? = none ∧
      k' (a, r) = (InPlace.setHead r h >>= fun _ => k'') ∧
        Mirrors chain [.dictionary h es] [r] (k (a, es)) k'' post) :
    Mirrors chain [] [] (inDictionary act >>= k) (InPlace.inside h false act' >>= k') post := by
  intro s s' hp
  have hfills := hfill { s with scope := s.scope.inner } trivial
  have hbegin : s.scope.inner.frames = ⟨[], false⟩ :: s.scope.frames := rfl
  have hmeets := hact _ _ _ (hp.enter s.scope.inner trivial hbegin h)
  rw [exec_bind, exec_bind, exec_inDictionary, InPlace.exec_inside]
  generalize exec act { s with scope := s.scope.inner } = x, exec act' _ = x' at hfills hmeets
  cases hmeets with
  | error h => exact .error h
  | @ok a b u u' hpost =>
    obtain ⟨_, _, ⟨rfl, rfl, rfl⟩, hpu⟩ := hpost
    obtain ⟨outer, rfl⟩ := hp.innermost
    cases hu : u.scope with
    | stored | staged =>
      rw [hu] at hfills
      cases hfills
    | fresh es around removed =>
      rw [hu] at hfills
      obtain ⟨h', k'', hh, heq, hk⟩ := hk a es ⟨s'.workspace.nodes.size⟩
      have hframes : u.scope.frames = ⟨es, false⟩ :: s.scope.frames := by
        rw [hu]
        cases hfills
        rfl
      have hm := hk _ _ (hpu.leave hp.isOpen hframes hh)
      simp only [Except.map, Scope.entries, heq, exec_bind, InPlace.exec_setHead]
      exact hm

/-- Blocks. -/
theorem inBlock_bind {act : ReadM α} {act' : InPlace.SiteM α} {line : Int}
    {k : α × List Entry → ReadM γ} {k' : α × List Ref → InPlace.SiteM δ} (hfill : Filling act)
    (hact : ∀ r, Mirrors (r :: chain) [] [] act act' Alone)
    (hk : ∀ a es rs, Mirrors chain es rs (k (a, es)) (k' (a, rs)) post) :
    Mirrors chain [] [] (inBlock act >>= k) (InPlace.inBlock line act' >>= k') post := by
  intro s s' hp
  have hfills := hfill { s with scope := .staged [] s.scope } hp.isOpen.grounded
  have hbegin : (Scope.staged [] s.scope).frames = ⟨[], true⟩ :: s.scope.frames := rfl
  have hmeets := hact _ _ _ (hp.enter (.staged [] s.scope) hp.isOpen hbegin
    ⟨(s'.workspace.head s'.dictionary).keyword, false, line, -1⟩)
  rw [exec_bind, exec_bind, exec_inBlock, InPlace.exec_inBlock]
  generalize exec act { s with scope := .staged [] s.scope } = x, exec act' _ = x'
    at hfills hmeets
  obtain ⟨outer, rfl⟩ := hp.innermost
  cases hmeets with
  | @error f u u' h =>
    obtain ⟨scope, mode, log⟩ := u
    cases scope <;> exact .error h
  | @ok a b u u' hpost =>
    obtain ⟨_, _, ⟨rfl, rfl, rfl⟩, hpu⟩ := hpost
    obtain ⟨scope, mode, log⟩ := u
    cases hfills with
    | @staged _ es _ below _ hb =>
      have hopen : below.IsOpen := hpu.isOpen
      have hp' := hpu.leaveBlock hopen rfl
      exact hk a es _ _ _ hp'

end Mirrors

end CaseDict
