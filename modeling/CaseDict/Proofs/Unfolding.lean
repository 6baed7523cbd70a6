import CaseDict.Proofs.Ownership
import CaseDict.Proofs.Viewing
import Mathlib.Logic.Relation
/-! # Stored entries that are finite trees

`Workspace.Unfolds` says that the entry at a reference is a tree. It does not say who else refers to
its parts, which may stand in the tree in several places and in other dictionaries too, and it says
nothing of what is around them. Still the tree is the one that `Workspace.tree` reads back: along a
nesting of entries no reference comes twice, so no nesting is deeper than there are entries. -/

namespace CaseDict

namespace Entry

mutual

/-- How many entries are inside one another at most, the outermost one included. -/
def height : Entry → Nat
  | primitive .. => 1
  | dictionary _ es => heightOf es + 1

def heightOf : List Entry → Nat
  | [] => 0
  | e :: es => max e.height (heightOf es)

end

end Entry

namespace Workspace

open Entry

variable {ws ws' : Workspace} {d r x : Ref} {rs : List Ref} {e e' : Entry} {es es' : List Entry}
  {h : Heading} {depth : Nat}

mutual

/-- The stored entry is the tree. -/
def Unfolds (ws : Workspace) (r : Ref) : Entry → Prop
  | .primitive h ts => r.index < ws.nodes.size ∧ ws.node r = .primitive h ts
  | .dictionary h es => ∃ m, ws.node r = .dictionary h m ∧ UnfoldsAll ws m.members es

/-- The stored entries are the trees. -/
def UnfoldsAll (ws : Workspace) : List Ref → List Entry → Prop
  | [], [] => True
  | r :: rs, e :: es => Unfolds ws r e ∧ UnfoldsAll ws rs es
  | _, _ => False

end

theorem unfoldsAll_iff : UnfoldsAll ws rs es ↔ List.Forall₂ ws.Unfolds rs es := by
  induction rs generalizing es with
  | nil => cases es <;> simp [UnfoldsAll]
  | cons r rs ih => cases es <;> simp [UnfoldsAll, ih]

/-! ### One entry -/

theorem Unfolds.lt (hs : Unfolds ws r e) : r.index < ws.nodes.size := by
  cases e with
  | primitive h ts => exact hs.1
  | dictionary h es =>
    obtain ⟨m, hnode, -⟩ := hs
    exact lt_of_node_dictionary hnode

theorem Unfolds.head (hs : Unfolds ws r e) : ws.head r = e.head := by
  cases e with
  | primitive h ts => rw [Workspace.head, hs.2]; rfl
  | dictionary h es =>
    obtain ⟨m, hnode, -⟩ := hs
    rw [Workspace.head, hnode]
    rfl

theorem Unfolds.isDictionary (hs : Unfolds ws r e) : ws.isDictionary r = e.isDictionary := by
  cases e with
  | primitive h ts => rw [Workspace.isDictionary, hs.2]; rfl
  | dictionary h es =>
    obtain ⟨m, hnode, -⟩ := hs
    rw [Workspace.isDictionary, hnode]
    rfl

/-- The members of a dictionary are its entries. -/
theorem Unfolds.members (hs : Unfolds ws r (.dictionary h es)) : UnfoldsAll ws (ws.members r) es := by
  obtain ⟨m, hnode, hm⟩ := hs
  rwa [Workspace.members, hnode]

theorem UnfoldsAll.mem (hs : UnfoldsAll ws rs es) (hx : x ∈ rs) : ∃ e', Unfolds ws x e' := by
  induction rs generalizing es with
  | nil => contradiction
  | cons r rs ih =>
    cases es with
    | nil => exact hs.elim
    | cons e es =>
      rcases List.mem_cons.mp hx with rfl | hx
      · exact ⟨e, hs.1⟩
      · exact ih hs.2 hx

theorem Unfolds.mem_members (hs : Unfolds ws r e) (hx : x ∈ ws.members r) : ∃ e', Unfolds ws x e' := by
  cases e with
  | primitive h ts => simp [Workspace.members, hs.2, Node.inside?] at hx
  | dictionary h es => exact hs.members.mem hx

mutual

/-- A stored entry is one tree only. -/
theorem Unfolds.eq : ∀ {e e' : Entry} {r : Ref}, Unfolds ws r e → Unfolds ws r e' → e = e'
  | .primitive .., .primitive .., _, ⟨_, hn⟩, ⟨_, hn'⟩ => by
    cases hn.symm.trans hn'
    rfl
  | .primitive .., .dictionary .., _, ⟨_, hn⟩, ⟨_, hn', _⟩ => by cases hn.symm.trans hn'
  | .dictionary .., .primitive .., _, ⟨_, hn, _⟩, ⟨_, hn'⟩ => by cases hn.symm.trans hn'
  | .dictionary .., .dictionary .., _, ⟨_, hn, hm⟩, ⟨_, hn', hm'⟩ => by
    cases hn.symm.trans hn'
    rw [hm.eq hm']

theorem UnfoldsAll.eq : ∀ {es : List Entry} {rs : List Ref} {es' : List Entry},
    UnfoldsAll ws rs es → UnfoldsAll ws rs es' → es = es'
  | [], [], [], _, _ => rfl
  | _ :: _, _ :: _, _ :: _, ⟨hr, hrs⟩, ⟨hr', hrs'⟩ => by rw [hr.eq hr', hrs.eq hrs']

end

/-! ### Reading back -/

mutual

/-- The references along a deepest nesting of entries. -/
theorem Unfolds.nesting : ∀ {e : Entry} {r : Ref}, Unfolds ws r e →
    ∃ nest : Multiset Ref, nest.card = e.height ∧ nest.Nodup ∧
      ∀ x ∈ nest, ∃ e', Unfolds ws x e' ∧ e'.height ≤ e.height
  | .primitive h ts, r, hs => by
    refine ⟨{r}, rfl, Multiset.nodup_singleton r, fun x hx => ?_⟩
    obtain rfl := Multiset.mem_singleton.mp hx
    exact ⟨_, hs, le_rfl⟩
  | .dictionary h es, r, hs => by
    obtain ⟨m, hnode, hm⟩ := hs
    have hself : Unfolds ws r (.dictionary h es) := ⟨m, hnode, hm⟩
    obtain ⟨nest, hcard, hnodup, hnest⟩ := hm.nesting
    -- the entry itself is too high to be among those in it
    have hnew : r ∉ nest := by
      intro hr
      obtain ⟨e', he', hle⟩ := hnest r hr
      rw [he'.eq hself, height] at hle
      omega
    refine ⟨r ::ₘ nest, ?_, Multiset.nodup_cons.mpr ⟨hnew, hnodup⟩, fun x hx => ?_⟩
    · rw [Multiset.card_cons, hcard, height]
    · rcases Multiset.mem_cons.mp hx with rfl | hx
      · exact ⟨_, hself, le_rfl⟩
      · obtain ⟨e', he', hle⟩ := hnest x hx
        exact ⟨e', he', by rw [height]; omega⟩

theorem UnfoldsAll.nesting : ∀ {es : List Entry} {rs : List Ref}, UnfoldsAll ws rs es →
    ∃ nest : Multiset Ref, nest.card = heightOf es ∧ nest.Nodup ∧
      ∀ x ∈ nest, ∃ e', Unfolds ws x e' ∧ e'.height ≤ heightOf es
  | [], _, _ => ⟨0, rfl, Multiset.nodup_zero, fun x hx => absurd hx (Multiset.notMem_zero x)⟩
  | e :: es, _ :: _, ⟨hr, hrs⟩ => by
    rw [heightOf]
    rcases Nat.le_total (heightOf es) e.height with hle | hle
    · obtain ⟨nest, hcard, hnodup, hnest⟩ := hr.nesting
      rw [Nat.max_eq_left hle]
      exact ⟨nest, hcard, hnodup, hnest⟩
    · obtain ⟨nest, hcard, hnodup, hnest⟩ := hrs.nesting
      rw [Nat.max_eq_right hle]
      exact ⟨nest, hcard, hnodup, hnest⟩

end

/-- No nesting is deeper than there are entries. -/
theorem Unfolds.height_le (hs : Unfolds ws r e) : e.height ≤ ws.nodes.size := by
  obtain ⟨nest, hcard, hnodup, hnest⟩ := hs.nesting
  rw [← hcard]
  refine card_le_size (fun x hx => ?_) hnodup
  obtain ⟨e', he', -⟩ := hnest x hx
  exact he'.lt

mutual

theorem Unfolds.treeWithin : ∀ {e : Entry} {r : Ref} {depth : Nat}, Unfolds ws r e →
    e.height ≤ depth → ws.treeWithin depth r = e
  | .primitive .., _, depth, ⟨_, hn⟩, hd => by
    rw [height] at hd
    obtain ⟨depth, rfl⟩ := Nat.exists_eq_succ_of_ne_zero (n := depth) (by omega)
    simp [Workspace.treeWithin, hn]
  | .dictionary .., _, depth, ⟨_, hn, hm⟩, hd => by
    rw [height] at hd
    obtain ⟨depth, rfl⟩ := Nat.exists_eq_succ_of_ne_zero (n := depth) (by omega)
    simp only [Workspace.treeWithin, hn]
    rw [hm.treeWithin (by omega)]

theorem UnfoldsAll.treeWithin : ∀ {es : List Entry} {rs : List Ref} {depth : Nat},
    UnfoldsAll ws rs es → heightOf es ≤ depth → rs.map (ws.treeWithin depth) = es
  | [], [], _, _, _ => rfl
  | _ :: _, _ :: _, _, ⟨hr, hrs⟩, hd => by
    rw [heightOf] at hd
    rw [List.map_cons, hr.treeWithin (by omega), hrs.treeWithin (by omega)]

end

/-- The tree is read back. -/
theorem Unfolds.tree (hs : Unfolds ws r e) : ws.tree r = e :=
  hs.treeWithin (Nat.le_succ_of_le hs.height_le)

mutual

/-- An entry that owns its parts is a tree. -/
theorem Owns.unfolds : ∀ {e : Entry} {r : Ref} {owned : Multiset Ref}, Owns ws r owned e →
    Unfolds ws r e
  | .primitive .., _, _, ⟨hr, hn, _, _⟩ => ⟨hr, hn⟩
  | .dictionary .., _, _, ⟨_, _, _, hn, _, _, hes⟩ => ⟨_, hn, hes.unfolds⟩

theorem OwnsAll.unfolds : ∀ {es : List Entry} {around : Option Ref} {rs : List Ref}
    {owned : Multiset Ref}, OwnsAll ws around rs owned es → UnfoldsAll ws rs es
  | [], _, [], _, _ => trivial
  | _ :: _, _, _ :: _, _, ⟨_, _, _, hr, _, hrs⟩ => ⟨hr.unfolds, hrs.unfolds⟩

end

/-! ### Looking names up -/

/-- A name denotes in a stored dictionary what it denotes in the tree. -/
theorem Unfolds.agree (hs : Unfolds ws r e) :
    Option.Rel (Lookup.Agree ws.inspection Entry.inspection ws.Unfolds) (ws.inspection.inner? r)
      (Entry.inspection.inner? e) := by
  cases e with
  | primitive h ts =>
    have hinner : ws.inspection.inner? r = none := by simp [inspection, hs.2, Node.inside?]
    rw [hinner]
    exact .none
  | dictionary h es =>
    obtain ⟨m, hnode, hm⟩ := hs
    have hinner : ws.inspection.inner? r = some m.members := by
      simp [inspection, hnode, Node.inside?]
    rw [hinner]
    exact .some (Lookup.agree_of_forall₂ (fun _ _ => Unfolds.head) (unfoldsAll_iff.mp hm))

/-! ### What an entry reaches -/

/-- The second entry is the first or in it, at any depth. -/
def Reaches (ws : Workspace) : Ref → Ref → Prop :=
  Relation.ReflTransGen fun d e => e ∈ ws.members d

/-- Only what an entry reaches matters to what it reaches. -/
theorem Reaches.congr (hsame : ∀ x, ws.Reaches r x → ws'.node x = ws.node x)
    (hx : ws'.Reaches r x) : ws.Reaches r x := by
  induction hx with
  | refl => exact .refl
  | tail _ hmem ih =>
    rw [members, hsame _ ih] at hmem
    exact .tail ih hmem

theorem Unfolds.of_reaches (hs : Unfolds ws r e) (hx : ws.Reaches r x) : ∃ e', Unfolds ws x e' := by
  induction hx with
  | refl => exact ⟨e, hs⟩
  | tail _ hmem ih =>
    obtain ⟨e', he'⟩ := ih
    exact he'.mem_members hmem

mutual

/-- Only what an entry reaches matters. -/
theorem Unfolds.congr (hsize : ws.nodes.size ≤ ws'.nodes.size) : ∀ {e : Entry} {r : Ref},
    Unfolds ws r e → (∀ x, ws.Reaches r x → ws'.node x = ws.node x) → Unfolds ws' r e
  | .primitive .., r, ⟨hr, hn⟩, hx => ⟨Nat.lt_of_lt_of_le hr hsize, (hx r .refl).trans hn⟩
  | .dictionary .., r, ⟨m, hn, hm⟩, hx => by
    have hmembers : ws.members r = m.members := by rw [Workspace.members, hn]; rfl
    refine ⟨m, (hx r .refl).trans hn, hm.congr hsize fun x hxm y hy => hx y ?_⟩
    exact .head (hmembers ▸ hxm) hy

theorem UnfoldsAll.congr (hsize : ws.nodes.size ≤ ws'.nodes.size) :
    ∀ {es : List Entry} {rs : List Ref}, UnfoldsAll ws rs es →
      (∀ x ∈ rs, ∀ y, ws.Reaches x y → ws'.node y = ws.node y) → UnfoldsAll ws' rs es
  | [], [], _, _ => trivial
  | _ :: _, _ :: _, ⟨hr, hrs⟩, hx =>
    ⟨hr.congr hsize (hx _ List.mem_cons_self),
      hrs.congr hsize fun x hxm => hx x (List.mem_cons_of_mem _ hxm)⟩

end

end Workspace

end CaseDict
