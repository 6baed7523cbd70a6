import CaseDict.Proofs.Arena
import CaseDict.Proofs.Hereditary
/-! # New entries of a workspace

Storing a tree adds entries behind those that are there and changes none of them (`Extends`). What
is stored is the tree (`Holds`), with each part behind the dictionary it is in, so it is also what
`Workspace.tree` reads back. `Grew` says that a dictionary got new members in this way. -/

namespace CaseDict

namespace Workspace

variable {ws ws' ws'' : Workspace} {d r : Ref} {least : Nat}

/-! ### More entries -/

theorem node_of_size_le (h : ws.nodes.size ≤ r.index) :
    ws.node r = .primitive ⟨"", false, -1, -1⟩ [] := by
  simp [node, Array.getD_eq_getD_getElem?, h]

theorem node_alloc (n : Node) : (ws.alloc n).2.node r =
    if r.index = ws.nodes.size then n else ws.node r := by
  simp only [alloc, node, Array.getD_eq_getD_getElem?, Array.getElem?_push]
  split <;> rfl

theorem size_alloc (n : Node) : (ws.alloc n).2.nodes.size = ws.nodes.size + 1 := by simp [alloc]

/-- The second workspace has the entries of the first, and others. -/
structure Extends (ws ws' : Workspace) : Prop where
  size_le : ws.nodes.size ≤ ws'.nodes.size
  node_eq : ∀ r : Ref, r.index < ws.nodes.size → ws'.node r = ws.node r

theorem Extends.refl : Extends ws ws := ⟨Nat.le_refl _, fun _ _ => rfl⟩

theorem Extends.trans (h : Extends ws ws') (h' : Extends ws' ws'') : Extends ws ws'' :=
  ⟨Nat.le_trans h.size_le h'.size_le, fun r hr =>
    (h'.node_eq r (Nat.lt_of_lt_of_le hr h.size_le)).trans (h.node_eq r hr)⟩

theorem Extends.alloc (n : Node) : Extends ws (ws.alloc n).2 :=
  ⟨by simp [Workspace.alloc], fun r hr => by rw [node_alloc, if_neg (by omega)]⟩

/-! ### Stored trees -/

mutual

/-- The entry at `r` is the tree; it is stored from the place `least` on, and what is in it behind
it. -/
def Holds (ws : Workspace) (least : Nat) (r : Ref) : Entry → Prop
  | .primitive h ts => least ≤ r.index ∧ r.index < ws.nodes.size ∧ ws.node r = .primitive h ts
  | .dictionary h es => least ≤ r.index ∧ r.index < ws.nodes.size ∧
      ∃ m, ws.node r = .dictionary h m ∧ HoldsAll ws (r.index + 1) m.members es

/-- The entries at the references are the trees. -/
def HoldsAll (ws : Workspace) (least : Nat) : List Ref → List Entry → Prop
  | [], [] => True
  | r :: rs, e :: es => Holds ws least r e ∧ HoldsAll ws least rs es
  | _, _ => False

end

/-- The same entries from the place `least` on, but for what is around them. -/
structure AgreesFrom (least : Nat) (ws ws' : Workspace) : Prop where
  size_le : ws.nodes.size ≤ ws'.nodes.size
  node_eq : ∀ r : Ref, least ≤ r.index → r.index < ws.nodes.size →
    ∃ p : Option Ref → Option Ref,
      ws'.node r = (ws.node r).mapInside fun m => { m with parent := p m.parent }

theorem Node.mapInside_id (n : Node) : n.mapInside (fun m => m) = n := by cases n <;> rfl

/-- Changes before the place `least` are not seen from there. -/
theorem AgreesFrom.of_node_eq (hs : ws.nodes.size ≤ ws'.nodes.size)
    (h : ∀ r : Ref, least ≤ r.index → r.index < ws.nodes.size → ws'.node r = ws.node r) :
    AgreesFrom least ws ws' :=
  ⟨hs, fun r hl hr => ⟨id, (h r hl hr).trans (Node.mapInside_id _).symm⟩⟩

theorem AgreesFrom.of_le {least' : Nat} (h : AgreesFrom least ws ws') (hl : least ≤ least') :
    AgreesFrom least' ws ws' := ⟨h.size_le, fun r hr => h.node_eq r (Nat.le_trans hl hr)⟩

mutual

theorem Holds.mono :
    ∀ {e : Entry} {r : Ref} {least : Nat}, AgreesFrom least ws ws' →
      Holds ws least r e → Holds ws' least r e
  | .primitive k ts, r, least, h, ⟨hl, hr, hn⟩ => by
    obtain ⟨p, hp⟩ := h.node_eq r hl hr
    exact ⟨hl, Nat.lt_of_lt_of_le hr h.size_le, by rw [hp, hn]; rfl⟩
  | .dictionary k es, r, least, h, ⟨hl, hr, m, hn, hm⟩ => by
    obtain ⟨p, hp⟩ := h.node_eq r hl hr
    exact ⟨hl, Nat.lt_of_lt_of_le hr h.size_le, { m with parent := p m.parent },
      by rw [hp, hn]; rfl, hm.mono (h.of_le (Nat.le_succ_of_le hl))⟩

theorem HoldsAll.mono :
    ∀ {es : List Entry} {rs : List Ref} {least : Nat}, AgreesFrom least ws ws' →
      HoldsAll ws least rs es → HoldsAll ws' least rs es
  | [], [], _, _, _ => trivial
  | _ :: _, _ :: _, _, h, hh => ⟨hh.1.mono h, hh.2.mono h⟩

end

mutual

theorem Holds.of_le : ∀ {e : Entry} {r : Ref} {least least' : Nat}, least ≤ least' →
    Holds ws least' r e → Holds ws least r e
  | .primitive .., _, _, _, hl, ⟨h, hn⟩ => ⟨Nat.le_trans hl h, hn⟩
  | .dictionary .., _, _, _, hl, ⟨h, hn⟩ => ⟨Nat.le_trans hl h, hn⟩

theorem HoldsAll.of_le : ∀ {es : List Entry} {rs : List Ref} {least least' : Nat},
    least ≤ least' → HoldsAll ws least' rs es → HoldsAll ws least rs es
  | [], [], _, _, _, _ => trivial
  | _ :: _, _ :: _, _, _, hl, h => ⟨h.1.of_le hl, h.2.of_le hl⟩

end

theorem HoldsAll.append {rs rs' : List Ref} {es es' : List Entry}
    (h : HoldsAll ws least rs es) (h' : HoldsAll ws least rs' es') :
    HoldsAll ws least (rs ++ rs') (es ++ es') := by
  induction rs generalizing es with
  | nil =>
    cases es with
    | nil => exact h'
    | cons => contradiction
  | cons r rs ih =>
    cases es with
    | nil => contradiction
    | cons e es => exact ⟨h.1, ih h.2⟩

mutual

/-- A stored tree is read back, at any depth that reaches the end of the workspace. -/
theorem Holds.treeWithin : ∀ {e : Entry} {r : Ref} {least depth : Nat},
    Holds ws least r e → ws.nodes.size ≤ least + depth → ws.treeWithin depth r = e
  | .primitive k ts, r, least, depth, ⟨hl, hr, hn⟩, hd => by
    obtain ⟨depth, rfl⟩ := Nat.exists_eq_succ_of_ne_zero (n := depth) (by omega)
    simp [Workspace.treeWithin, hn]
  | .dictionary k es, r, least, depth, ⟨hl, hr, m, hn, hm⟩, hd => by
    obtain ⟨depth, rfl⟩ := Nat.exists_eq_succ_of_ne_zero (n := depth) (by omega)
    simp only [Workspace.treeWithin, hn]
    rw [hm.treeWithin (by omega)]

theorem HoldsAll.treeWithin : ∀ {es : List Entry} {rs : List Ref} {least depth : Nat},
    HoldsAll ws least rs es → ws.nodes.size ≤ least + depth → rs.map (ws.treeWithin depth) = es
  | [], [], _, _, _, _ => rfl
  | _ :: _, _ :: _, _, _, h, hd => by
    rw [List.map_cons, h.1.treeWithin hd, h.2.treeWithin hd]

end

theorem Holds.tree {e : Entry} (h : Holds ws least r e) : ws.tree r = e := h.treeWithin (by omega)

theorem HoldsAll.tree {rs : List Ref} {es : List Entry} (h : HoldsAll ws least rs es) :
    rs.map ws.tree = es := h.treeWithin (by omega)

/-! ### New members -/

theorem lt_of_isDictionary (h : ws.isDictionary d) : d.index < ws.nodes.size := by
  refine Nat.lt_of_not_le fun hn => ?_
  rw [isDictionary, node_of_size_le hn] at h
  contradiction

theorem node_append (e : Ref) : (ws.append d e).node r =
    if r = d then (ws.node d).mapInside fun m => { m with members := m.members ++ [e] }
    else ws.node r := node_mapInside _

theorem size_append (e : Ref) : (ws.append d e).nodes.size = ws.nodes.size := size_update _

theorem isDictionary_mapInside (n : Node) (f : Membership → Membership) :
    (n.mapInside f).isDictionary = n.isDictionary := by cases n <;> rfl

/-- The dictionary `d` has the new members `rs`, which are the trees, and no other entry that was
there has changed. -/
structure Grew (ws : Workspace) (d : Ref) (rs : List Ref) (es : List Entry) (ws' : Workspace) :
    Prop where
  size_le : ws.nodes.size ≤ ws'.nodes.size
  node_self : ws'.node d = (ws.node d).mapInside fun m => { m with members := m.members ++ rs }
  node_eq : ∀ r : Ref, r ≠ d → r.index < ws.nodes.size → ws'.node r = ws.node r
  holds : HoldsAll ws' ws.nodes.size rs es

namespace Grew

variable {rs rs' : List Ref} {es es' : List Entry}

theorem refl : Grew ws d [] [] ws := by
  refine ⟨Nat.le_refl _, ?_, fun _ _ _ => rfl, trivial⟩
  simp only [List.append_nil]
  exact (Node.mapInside_id _).symm

theorem isDictionary (h : Grew ws d rs es ws') : ws'.isDictionary d = ws.isDictionary d := by
  rw [Workspace.isDictionary, h.node_self, isDictionary_mapInside, Workspace.isDictionary]

theorem trans (hd : ws.isDictionary d) (h : Grew ws d rs es ws') (h' : Grew ws' d rs' es' ws'') :
    Grew ws d (rs ++ rs') (es ++ es') ws'' := by
  have hlt := lt_of_isDictionary hd
  refine ⟨Nat.le_trans h.size_le h'.size_le, ?_, fun r hr hrlt => ?_, ?_⟩
  · rw [h'.node_self, h.node_self]
    cases ws.node d <;> simp [Node.mapInside]
  · rw [h'.node_eq r hr (Nat.lt_of_lt_of_le hrlt h.size_le), h.node_eq r hr hrlt]
  · refine (h.holds.mono (.of_node_eq h'.size_le fun r hl hr => ?_)).append
      (h'.holds.of_le h.size_le)
    exact h'.node_eq r (by rintro rfl; omega) hr

/-- One more member. -/
theorem append {e : Entry} (hd : ws.isDictionary d) (he : Extends ws ws')
    (hh : Holds ws' ws.nodes.size r e) : Grew ws d [r] [e] (ws'.append d r) := by
  have hlt := lt_of_isDictionary hd
  refine ⟨?_, ?_, fun x hx hxlt => ?_, ?_, trivial⟩
  · rw [size_append]
    exact he.size_le
  · rw [node_append, if_pos rfl, he.node_eq d hlt]
  · rw [node_append, if_neg hx, he.node_eq x hxlt]
  · refine hh.mono (.of_node_eq (Nat.le_of_eq (size_append _).symm) fun x hl _ => ?_)
    rw [node_append, if_neg (by rintro rfl; omega)]

end Grew

mutual

/-- Storing a tree adds it at the end. -/
theorem plant_spec : ∀ (e : Entry) (ws : Workspace) (parent : Option Ref),
    (ws.plant parent e).1 = ⟨ws.nodes.size⟩ ∧ Extends ws (ws.plant parent e).2 ∧
      Holds (ws.plant parent e).2 ws.nodes.size ⟨ws.nodes.size⟩ e
  | .primitive h ts, ws, parent => by
    refine ⟨rfl, .alloc _, Nat.le_refl _, ?_, ?_⟩
    · simp [plant, size_alloc]
    · simp [plant, node_alloc]
  | .dictionary h es, ws, parent => by
    have hn : (ws.alloc (.dictionary h { parent })).2.node ⟨ws.nodes.size⟩ =
        .dictionary h { parent } := by rw [node_alloc, if_pos rfl]
    have hd : (ws.alloc (.dictionary h { parent })).2.isDictionary ⟨ws.nodes.size⟩ := by
      simp [isDictionary, hn, Node.isDictionary, Node.inside?]
    obtain ⟨rs, hg⟩ := plantAll_spec es _ _ hd
    have hle := hg.size_le
    have hholds := hg.holds
    rw [size_alloc] at hle hholds
    have hself : (ws.plant parent (.dictionary h es)).2.node ⟨ws.nodes.size⟩ =
        .dictionary h { members := rs, parent } := by
      refine hg.node_self.trans ?_
      rw [hn]
      rfl
    -- neither the new dictionary nor its members change the entries that were there
    have hold (r : Ref) (hr : r.index < ws.nodes.size) :
        (ws.plant parent (.dictionary h es)).2.node r = ws.node r := by
      have hne : r ≠ ⟨ws.nodes.size⟩ := by
        rintro rfl
        exact Nat.lt_irrefl _ hr
      have hlt : r.index < (ws.alloc (.dictionary h { parent })).2.nodes.size := by
        rw [size_alloc]
        omega
      exact (hg.node_eq r hne hlt).trans ((Extends.alloc _).node_eq r hr)
    exact ⟨rfl, ⟨Nat.le_of_succ_le hle, hold⟩, Nat.le_refl _, hle, _, hself, hholds⟩

theorem plantAll_spec : ∀ (es : List Entry) (ws : Workspace) (d : Ref), ws.isDictionary d →
    ∃ rs, Grew ws d rs es (ws.plantAll d es)
  | [], ws, d, _ => ⟨[], .refl⟩
  | e :: es, ws, d, hd => by
    obtain ⟨h1, h2, h3⟩ := plant_spec e ws (some d)
    have hg := Grew.append hd h2 h3
    obtain ⟨rs, hrs⟩ := plantAll_spec es _ d (hg.isDictionary.trans hd)
    refine ⟨⟨ws.nodes.size⟩ :: rs, ?_⟩
    simp only [plantAll, h1]
    exact hg.trans hd hrs

end

/-- A planted tree is made the last member of a dictionary. -/
theorem Grew.insert_plant (hd : ws.isDictionary d) (e : Entry) :
    Grew ws d [(ws.plant none e).1] [e] ((ws.plant none e).2.insert d (ws.plant none e).1) := by
  obtain ⟨h1, h2, h3⟩ := plant_spec e ws none
  rw [h1]
  refine .append hd ⟨?_, fun r hr => ?_⟩ (h3.mono ⟨?_, fun r _ _ => ?_⟩)
  · rw [size_update]
    exact h2.size_le
  · rw [node_mapInside, if_neg (by rintro rfl; exact Nat.lt_irrefl _ hr), h2.node_eq r hr]
  · exact Nat.le_of_eq (size_update _).symm
  · rw [node_mapInside]
    split
    · next h => exact ⟨fun _ => some d, by rw [h]⟩
    · exact ⟨id, (Node.mapInside_id _).symm⟩

end Workspace

end CaseDict
