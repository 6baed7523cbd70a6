import CaseDict.Proofs.Placing
import CaseDict.Reader
/-! # A statement is read as a whole or not at all

What a statement brings is placed when it has been read. If one of its entries is refused, none of
them is placed: in the mode `error` all are looked at before the first is placed, and in the other
modes none is refused. Removals are carried out as the statement is read, and stay. -/

namespace CaseDict

open Expansion Statement Entry

/-! ### Removals, then entries -/

theorem Workspace.IsTarget.filterMembers {ws : Workspace} {d : Ref} (h : ws.IsTarget d)
    (keep : String → Bool) : (ws.filterMembers d keep).IsTarget d := by
  refine ⟨?_, (isTransparent_filterMembers keep).trans h.grounded, fun r hr => ?_⟩
  · rw [Workspace.isDictionary, node_filterMembers, if_pos rfl, isDictionary_mapInside]
    exact h.isDictionary
  · have hm := h.index_lt
    rw [members, node_filterMembers, if_pos rfl] at hr
    rw [members] at hm
    rw [Workspace.filterMembers, size_update]
    cases hn : ws.node d with
    | primitive => simp [hn, Node.mapInside, Node.inside?] at hr
    | dictionary k m =>
      rw [hn] at hr hm
      exact hm r (List.mem_filter.mp hr).1

theorem Workspace.IsTarget.removeAll {d : Ref} (rs : List Removal) :
    ∀ {ws : Workspace}, ws.IsTarget d → (ws.removeAll d rs).IsTarget d := by
  induction rs with
  | nil => exact id
  | cons r rs ih => exact fun h => ih (h.filterMembers _)

namespace Scope

variable {s s' s'' : Scope} {new : List Entry}

theorem Prunes.isTarget (h : Prunes s s') (hs : s.IsTarget) : s'.IsTarget := by
  cases h with
  | fresh => trivial
  | stored rs => exact Workspace.IsTarget.removeAll rs hs
  | staged => contradiction

/-- The second dictionary is what removals leave of the first, with the entries `new` behind. -/
def Yields (new : List Entry) (s s' : Scope) : Prop := ∃ left, s.Prunes left ∧ left.Gains new s'

theorem Prunes.yields (h : s.Prunes s') (hs : s.IsTarget) : s.Yields [] s' :=
  ⟨s', h, .refl (h.isTarget hs)⟩

theorem Gains.yields (h : s.Gains new s') (hs : s.IsTarget) : s.Yields new s' :=
  ⟨s, .refl hs.grounded, h⟩

theorem Prunes.trans_yields (h : s.Prunes s') (h' : Yields new s' s'') : Yields new s s'' := by
  obtain ⟨left, hp, hg⟩ := h'
  exact ⟨left, h.trans hp, hg⟩

end Scope

/-! ### Placing what a statement brings -/

section Placing

variable {e : Entry} {es : List Entry} {s : ReadState}

theorem exec_place_gains (hs : s.scope.IsTarget)
    (h : s.mode = .retain ∨ e.keyword ∉ s.scope.keywords) :
    ∃ s', exec (place e) s = (.ok [e], s') ∧ s'.mode = s.mode ∧ s.scope.Gains [e] s'.scope := by
  obtain ⟨scope, hp, hg⟩ := Scope.place_gains hs h
  rw [exec_place, hp]
  exact ⟨_, rfl, rfl, hg⟩

theorem exec_place_ok (hm : s.mode ≠ .error) (he : e.Checked) :
    ∃ placed s', exec (place e) s = (.ok placed, s') ∧ s'.mode = s.mode := by
  obtain ⟨⟨placed, events⟩, hp⟩ := s.scope.place_ok hm he
  rw [exec_place]
  rcases hq : s.scope.place s.mode e with ⟨_ | ⟨placed, events⟩, scope⟩
  · simp [hq] at hp
  · exact ⟨_, _, rfl, rfl⟩

theorem exec_placeEach_ok (hm : s.mode ≠ .error) (he : AllChecked es) :
    ∃ placed s', exec (placeEach es) s = (.ok placed, s') ∧ s'.mode = s.mode := by
  induction es generalizing s with
  | nil => exact ⟨[], s, rfl, rfl⟩
  | cons e es ih =>
    obtain ⟨placed, s', h, hmode⟩ := exec_place_ok hm (he e (by simp))
    obtain ⟨placed', s'', h', hmode'⟩ :=
      ih (hmode ▸ hm) fun x hx => he x (List.mem_cons_of_mem _ hx)
    refine ⟨placed ++ placed', s'', ?_, hmode'.trans hmode⟩
    simp only [placeEach, exec_bind, h, h', exec_pure]

theorem exec_placeEach_retain (es : List Entry) (hs : s.scope.IsTarget) (hm : s.mode = .retain) :
    ∃ s', exec (placeEach es) s = (.ok es, s') ∧ s.scope.Gains es s'.scope := by
  induction es generalizing s with
  | nil => exact ⟨s, rfl, .refl hs⟩
  | cons e es ih =>
    obtain ⟨s', h, hmode, hg⟩ := exec_place_gains hs (.inl hm)
    obtain ⟨s'', h', hg'⟩ := ih (hg.isTarget hs) (hmode.trans hm)
    refine ⟨s'', ?_, hg.trans hs hg'⟩
    simp only [placeEach, exec_bind, h, h', exec_pure]
    rfl

/-- If the keywords are all new, the entries are placed in the mode `error` too. -/
theorem exec_placeEach_checkNew {known : List (String × Int)} (hs : s.scope.IsTarget)
    (hk : ∀ k ∈ s.scope.keywords, k ∈ known.map Prod.fst) (hn : checkNew known es = .ok ()) :
    ∃ s', exec (placeEach es) s = (.ok es, s') ∧ s.scope.Gains es s'.scope := by
  induction es generalizing s known with
  | nil => exact ⟨s, rfl, .refl hs⟩
  | cons e es ih =>
    unfold checkNew at hn
    split at hn
    · contradiction
    · next hl =>
      have hnew : e.keyword ∉ s.scope.keywords := fun hin => by
        obtain ⟨p, hp, hpk⟩ := List.mem_map.mp (hk _ hin)
        have hne := List.lookup_eq_none_iff.mp hl p hp
        rw [hpk] at hne
        simp at hne
      obtain ⟨s', h, hmode, hg⟩ := exec_place_gains hs (.inr hnew)
      have hk' : ∀ k ∈ s'.scope.keywords,
          k ∈ ((e.keyword, e.head.startLine) :: known).map Prod.fst := by
        rw [hg.keywords hs]
        intro k hin
        rcases List.mem_append.mp hin with hin | hin
        · exact List.mem_cons_of_mem _ (hk k hin)
        · obtain rfl : k = e.keyword := by simpa using hin
          exact List.mem_cons_self ..
      obtain ⟨s'', h', hg'⟩ := ih (hg.isTarget hs) hk' hn
      refine ⟨s'', ?_, hg.trans hs hg'⟩
      simp only [placeEach, exec_bind, h, h', exec_pure]
      rfl

end Placing

/-! ### Statements -/

/-- The dictionary gets all of the entries that the computation brings, or none of them. -/
def Settling {α : Type} (brings : α → List Entry) (m : ReadM α) : Prop :=
  ∀ s : ReadState, s.scope.IsTarget → match exec m s with
    | (.error _, s') => s.scope.Yields [] s'.scope
    | (.ok a, s') => s'.mode = .retain → s.scope.Yields (brings a) s'.scope

namespace Settling

variable {α β : Type} {brings : α → List Entry}

theorem throw (f : Failure) : Settling brings (throw f) :=
  fun _ hs => (Scope.Gains.refl hs).yields hs

theorem adapt {m : ReadM α} (h : Settling brings m) (g : Failure → Failure) :
    Settling brings (ExceptT.adapt g m) := by
  intro s hs
  have h := h s hs
  rw [exec_adapt]
  rcases hm : exec m s with ⟨_ | a, s'⟩
  · rwa [hm] at h
  · rwa [hm] at h

/-- Before it brings anything, a computation may remove entries. -/
theorem bind {m : ReadM β} {mid : β → Prop} {k : β → ReadM α} (hm : Quiet m mid)
    (hk : ∀ b, mid b → Settling brings (k b)) : Settling brings (m >>= k) := by
  intro s hs
  obtain ⟨hp, hmid⟩ := hm s hs.grounded
  rw [exec_bind]
  rcases h : exec m s with ⟨f | b, s'⟩
  · rw [h] at hp
    exact hp.yields hs
  · rw [h] at hp hmid
    have hk := hk b (hmid b rfl) s' (hp.isTarget hs)
    dsimp only
    rcases h' : exec (k b) s' with ⟨f | a, s''⟩
    · rw [h'] at hk
      exact hp.trans_yields hk
    · rw [h'] at hk
      exact fun hr => hp.trans_yields (hk hr)

/-- What is returned beside the entries does not matter. -/
theorem bind_pure {m : ReadM α} (h : Settling brings m) {brings' : β → List Entry} {g : α → β}
    (hg : ∀ a, brings' (g a) = brings a) :
    Settling brings' (m >>= fun a => pure (g a)) := by
  intro s hs
  have h := h s hs
  rw [exec_bind]
  rcases hm : exec m s with ⟨f | a, s'⟩
  · rwa [hm] at h
  · rw [hm] at h
    exact fun hr => hg a ▸ h hr

theorem place {e : Entry} (he : e.Checked) : Settling id (place e) := by
  intro s hs
  by_cases hr : s.mode = .retain
  · obtain ⟨s', h, -, hg⟩ := exec_place_gains hs (.inl hr)
    rw [h]
    exact fun _ => hg.yields hs
  by_cases hm : s.mode = .error
  · have hf (f : Failure) := Scope.place_error (e := e) (f := f) hs
    rw [exec_place, hm]
    rcases h : s.scope.place .error e with ⟨f | p, scope⟩
    · rw [h] at hf
      exact (hf f rfl).yields hs
    · exact fun hr' => absurd hr' (by simp)
  · obtain ⟨placed, s', h, hmode⟩ := exec_place_ok hm he
    rw [h]
    exact fun hr' => absurd (hmode.symm.trans hr') hr

theorem placeAll {es : List Entry} (he : AllChecked es) : Settling id (placeAll es) := by
  intro s hs
  simp only [Statement.placeAll, exec_bind, exec_get]
  by_cases hm : s.mode = .error
  · rw [if_pos hm, exec_bind, exec_lift]
    cases hn : checkNew (firstLines s.scope.entries) es with
    | error f => exact (Scope.Gains.refl hs).yields hs
    | ok _ =>
      obtain ⟨s', h, hg⟩ := exec_placeEach_checkNew hs (by simp [firstLines, Scope.keywords]) hn
      simp only [h]
      exact fun _ => hg.yields hs
  rw [if_neg hm]
  by_cases hr : s.mode = .retain
  · obtain ⟨s', h, hg⟩ := exec_placeEach_retain es hs hr
    rw [h]
    exact fun _ => hg.yields hs
  · obtain ⟨placed, s', h, hmode⟩ := exec_placeEach_ok hm he
    rw [h]
    exact fun hr' => absurd (hmode.symm.trans hr') hr

variable {setup : Setup} {budget : Nat} {run : DirectiveRunner} {i : Input}

theorem readStatement (n : Nat) (t : Token)
    (hrun : ∀ n t i, Quiet (run n t i) fun p => AllChecked p.1) :
    Settling Prod.fst (readStatement setup budget run n t i) := by
  have hi : FillingBelow setup budget run i.size := fillingBelow hrun _
  rw [readStatement.eq_def]
  refine .adapt ?_ _
  split
  · exact .bind (hrun n t i) fun p hp => .bind_pure (.placeAll hp) fun _ => rfl
  · exact .bind .splice fun p hp => .bind_pure (.placeAll hp) fun _ => rfl
  · exact .bind (.readEntry hi) fun p hp => .bind_pure (.place hp) fun _ => rfl
  · exact .bind (.readEntry hi) fun p hp => .bind_pure (.place hp) fun _ => rfl
  · exact .throw _

end Settling

namespace Reader

end Reader

end CaseDict
