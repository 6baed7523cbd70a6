import CaseDict.Proofs.Effects
import CaseDict.Proofs.Merging
/-! # What placing changes

An entry is placed in a dictionary as a whole or not at all. `Scope.Gains` says that a dictionary
got entries at its end; this is what becomes of entries with new keywords, and of all entries in the
mode `retain`. An entry is refused only in the mode `error`, for its keyword, and then the
dictionary gains nothing. -/

namespace CaseDict

open Statement Entry

/-- A dictionary that stands for itself and whose members are there. -/
structure Workspace.IsTarget (ws : Workspace) (d : Ref) : Prop where
  isDictionary : ws.isDictionary d
  grounded : ws.isTransparent d = false
  index_lt : ∀ r ∈ ws.members d, r.index < ws.nodes.size

namespace Scope

/-- A dictionary that stands for itself, so that statements can be read into it. -/
def IsTarget : Scope → Prop
  | fresh .. => True
  | stored ws d _ _ => ws.IsTarget d
  | staged .. => False

/-- The dictionary has the entries `new` behind those it had, and nothing else has changed. -/
inductive Gains (new : List Entry) : Scope → Scope → Prop
  | fresh {es : List Entry} {around : List (Frame Entry)} {removed : List Removal} :
      Gains new (fresh es around removed) (fresh (es ++ new) around removed)
  | stored {ws ws' : Workspace} {d : Ref} {placed refs : List Ref} {removed : List Removal}
      (h : ws.Grew d refs new ws') :
      Gains new (stored ws d placed removed) (stored ws' d (placed ++ refs) removed)

/-- The keywords of the innermost dictionary or block. -/
def keywords (s : Scope) : List String := s.entries.map Entry.keyword

variable {s s' s'' : Scope} {e : Entry} {new new' : List Entry} {mode : InputMode}

theorem IsTarget.grounded (hs : s.IsTarget) : s.Grounded := by
  cases s with
  | fresh => trivial
  | stored => exact hs.grounded
  | staged => contradiction

theorem Gains.trans (hs : s.IsTarget) (h : Gains new s s') (h' : Gains new' s' s'') :
    Gains (new ++ new') s s'' := by
  cases h with
  | fresh =>
    cases h'
    rw [List.append_assoc]
    exact .fresh
  | stored h =>
    cases h' with
    | stored h' =>
      rw [List.append_assoc]
      exact .stored (h.trans hs.isDictionary h')

theorem Gains.refl (hs : s.IsTarget) : Gains [] s s := by
  cases s with
  | fresh es around removed =>
    have h := @Gains.fresh [] es around removed
    rwa [List.append_nil] at h
  | stored ws d placed removed =>
    have h := @Gains.stored [] ws ws d placed [] removed .refl
    rwa [List.append_nil] at h
  | staged => contradiction

end Scope

namespace Workspace

variable {ws ws' : Workspace} {d : Ref} {refs : List Ref} {new : List Entry}

theorem HoldsAll.index_lt {least : Nat} : ∀ {rs : List Ref} {es : List Entry},
    HoldsAll ws least rs es → ∀ r ∈ rs, r.index < ws.nodes.size
  | [], [], _ => by simp
  | r :: rs, e :: es, h => by
    refine List.forall_mem_cons.mpr ⟨?_, h.2.index_lt⟩
    cases e <;> exact h.1.2.1

theorem Grew.members (h : ws.Grew d refs new ws') (hd : ws.isDictionary d) :
    ws'.members d = ws.members d ++ refs := by
  rw [Workspace.members, h.node_self, Workspace.members]
  cases hn : ws.node d with
  | primitive => simp [Workspace.isDictionary, hn, Node.isDictionary, Node.inside?] at hd
  | dictionary => rfl

theorem Grew.head (h : ws.Grew d refs new ws') {r : Ref} (hr : r.index < ws.nodes.size) :
    ws'.head r = ws.head r := by
  by_cases hd : r = d
  · subst hd
    rw [Workspace.head, h.node_self, Node.head_mapInside, Workspace.head]
  · rw [Workspace.head, h.node_eq r hd hr, Workspace.head]

theorem Grew.isTransparent (h : ws.Grew d refs new ws') :
    ws'.isTransparent d = ws.isTransparent d := by
  rw [Workspace.isTransparent, h.node_self, Workspace.isTransparent]
  cases ws.node d <;> rfl

theorem keyword_tree (ws : Workspace) (r : Ref) : (ws.tree r).keyword = (ws.head r).keyword := by
  simp only [tree, treeWithin, head]
  cases ws.node r <;> rfl

end Workspace

namespace Scope

variable {s s' s'' : Scope} {e : Entry} {new new' : List Entry} {mode : InputMode}

theorem Gains.isTarget (h : Gains new s s') (hs : s.IsTarget) : s'.IsTarget := by
  cases h with
  | fresh => trivial
  | stored h =>
    refine ⟨h.isDictionary.trans hs.isDictionary, h.isTransparent.trans hs.grounded, ?_⟩
    rw [h.members hs.isDictionary]
    refine List.forall_mem_append.mpr ⟨fun r hr => ?_, h.holds.index_lt⟩
    exact Nat.lt_of_lt_of_le (hs.index_lt r hr) h.size_le

theorem Gains.keywords (h : Gains new s s') (hs : s.IsTarget) :
    s'.keywords = s.keywords ++ new.map Entry.keyword := by
  cases h with
  | fresh => simp [Scope.keywords, entries]
  | @stored ws ws' d placed refs removed h =>
    simp only [Scope.keywords, entries, List.map_map]
    have hold : (ws.members d).map (Entry.keyword ∘ ws'.tree) =
        (ws.members d).map (Entry.keyword ∘ ws.tree) := by
      refine List.map_congr_left fun r hr => ?_
      simp only [Function.comp, Workspace.keyword_tree, h.head (hs.index_lt r hr)]
    rw [h.members hs.isDictionary, List.map_append, hold, ← h.holds.tree, List.map_map]

end Scope

/-! ### One entry -/

namespace Workspace

variable {ws ws' : Workspace} {d : Ref} {mode : InputMode}

theorem Grew.of_extends (h : ws.Extends ws') (hd : ws.isDictionary d) : ws.Grew d [] [] ws' := by
  refine ⟨h.size_le, ?_, fun r _ hr => h.node_eq r hr, trivial⟩
  simp only [List.append_nil]
  exact (h.node_eq d (lt_of_isDictionary hd)).trans (Node.mapInside_id _).symm

theorem newest?_eq_none {keyword : String} :
    ws.newest? d keyword = none ↔ keyword ∉ (ws.members d).map fun r => (ws.head r).keyword := by
  simp [newest?]

theorem exec_place_append {e : Ref}
    (h : mode = .retain ∨ ws.newest? d (ws.head e).keyword = none) :
    exec (place mode d e) ws = (.ok ([e], []), ws.insert d e) := by
  simp only [place, exec_bind, exec_get]
  rcases h with rfl | h
  · split <;> rfl
  · rw [h]
    rfl

theorem exec_place_error {e : Ref} {f : Failure} (h : (exec (place .error d e) ws).1 = .error f) :
    (exec (place .error d e) ws).2 = ws := by
  simp only [place, exec_bind, exec_get] at h ⊢
  split
  · next hn =>
    rw [hn] at h
    contradiction
  · rfl

end Workspace

theorem Entry.newest?_eq_none {es : List Entry} {keyword : String} :
    newest? keyword es = none ↔ keyword ∉ es.map Entry.keyword := by simp [newest?]

theorem Entry.place_ok {mode : InputMode} (hm : mode ≠ .error) (es : List Entry) (e : Entry) :
    ∃ p, e.place mode es = .ok p := by
  unfold Entry.place
  split
  · exact ⟨_, rfl⟩
  · split
    · exact ⟨_, rfl⟩
    · exact ⟨_, rfl⟩
    · exact ⟨_, rfl⟩
    · exact ⟨_, rfl⟩
    · next hp => exact absurd hp (InputMode.placement_ne_refuse hm _)

namespace Scope

variable {s s' : Scope} {e : Entry} {mode : InputMode}

theorem place_stored (mode : InputMode) (e : Entry) (ws : Workspace) (d : Ref) (placed : List Ref)
    (removed : List Removal) : (stored ws d placed removed).place mode e =
      match exec (Workspace.place mode d (ws.plant none e).1) (ws.plant none e).2 with
      | (.ok (refs, events), ws') =>
        (.ok (refs.map ws'.tree, events), stored ws' d (placed ++ refs) removed)
      | (.error f, ws') => (.error f, stored ws' d placed removed) := rfl

/-- An entry with a new keyword, or any entry in the mode `retain`, goes to the end. -/
theorem place_gains (hs : s.IsTarget) (h : mode = .retain ∨ e.keyword ∉ s.keywords) :
    ∃ s', s.place mode e = (.ok ([e], []), s') ∧ Gains [e] s s' := by
  cases s with
  | staged => contradiction
  | fresh es around removed =>
    have hp : e.place mode es = .ok ⟨es ++ [e], [e], []⟩ :=
      Entry.place_new (h.imp_right Entry.newest?_eq_none.mpr)
    exact ⟨_, by rw [Scope.place, hp], .fresh⟩
  | stored ws d placed removed =>
    have hg := Workspace.Grew.insert_plant hs.isDictionary e
    have ht := hg.holds.tree
    obtain ⟨hr, hx, hh⟩ := Workspace.plant_spec e ws none
    rw [List.map_singleton, List.singleton_inj] at ht
    have hnew : mode = .retain ∨
        (ws.plant none e).2.newest? d ((ws.plant none e).2.head (ws.plant none e).1).keyword =
          none := by
      refine h.imp_right fun h => Workspace.newest?_eq_none.mpr ?_
      have hx := Workspace.Grew.of_extends hx hs.isDictionary
      have hk := (@Gains.stored [] ws _ d placed [] removed hx).keywords hs
      simp only [List.append_nil, List.map_nil] at hk
      rw [hr, ← Workspace.keyword_tree, hh.tree]
      rw [← hk] at h
      simpa [keywords, entries, Workspace.keyword_tree, Function.comp] using h
    refine ⟨_, ?_, .stored hg⟩
    rw [place_stored, Workspace.exec_place_append hnew]
    simp only [List.map_singleton, ht]

/-- An entry is refused only if redefinitions are errors. -/
theorem place_ok (hm : mode ≠ .error) (he : e.Checked) (s : Scope) :
    ∃ p, (s.place mode e).1 = .ok p := by
  cases s with
  | fresh es around removed =>
    obtain ⟨p, hp⟩ := Entry.place_ok hm es e
    exact ⟨_, by rw [Scope.place, hp]⟩
  | staged es below =>
    obtain ⟨p, hp⟩ := Entry.place_ok hm es e
    exact ⟨_, by rw [Scope.place, hp]⟩
  | stored ws d placed removed =>
    have hc : Workspace.CheckedFrom ws.nodes.size (ws.plant none e).2 :=
      (Workspace.CheckedFrom.of_size ws).plant he
    have hr : ws.nodes.size ≤ (ws.plant none e).1.index :=
      Nat.le_of_eq (congrArg Ref.index (Workspace.plant_spec e ws none).1).symm
    obtain ⟨p, hp, -⟩ := Workspace.Safe.place hm (d := d) hr _ hc
    rw [place_stored]
    split
    · exact ⟨_, rfl⟩
    · next h =>
      rw [h] at hp
      contradiction

/-- When an entry is refused nothing is placed. -/
theorem place_error {f : Failure} (hs : s.IsTarget) (h : (s.place .error e).1 = .error f) :
    Gains [] s (s.place .error e).2 := by
  cases s with
  | staged => contradiction
  | fresh es around removed =>
    simp only [Scope.place] at h ⊢
    cases hp : e.place .error es with
    | ok p =>
      rw [hp] at h
      contradiction
    | error f => exact .refl hs
  | stored ws d placed removed =>
    have hx := Workspace.Grew.of_extends (Workspace.plant_spec e ws none).2.1 hs.isDictionary
    have hg := @Gains.stored [] ws _ d placed [] removed hx
    rw [List.append_nil] at hg
    rw [place_stored] at h ⊢
    split
    · next hp =>
      rw [hp] at h
      contradiction
    · next hp =>
      have hw := Workspace.exec_place_error (congrArg Prod.fst hp)
      rw [hp] at hw
      obtain rfl : _ = (ws.plant none e).2 := hw
      exact hg

end Scope

end CaseDict
