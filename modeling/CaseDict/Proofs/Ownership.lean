import CaseDict.Proofs.Planting
import Mathlib.Algebra.Order.Group.Multiset
import Mathlib.Data.Multiset.Range
import Mathlib.Data.Multiset.UnionInter
/-! # Entries that are stored apart

A stored entry owns the references of all that is in it (`Workspace.Owns`). They are kept as a
multiset: that nothing in a dictionary is shared and that dictionaries share nothing is that the
multisets have no duplicates. A change turns what is owned before into what is owned after it and
touches nothing else (`Workspace.Turns`), so everything apart from it stays as it is. -/

namespace CaseDict

namespace Workspace

open Entry

variable {ws ws' ws'' : Workspace} {d r x : Ref} {e : Entry} {es es' : List Entry}
  {around p : Option Ref} {rs rs' : List Ref} {owned owned' owned'' others : Multiset Ref}
  {h : Heading} {t : Bool}

/-! ### Ownership -/

mutual

/-- The entry at `r` is the tree and owns these references, its own among them. Every dictionary in
it is the parent of its members, and none is transparent. The patterns are well formed. -/
def Owns (ws : Workspace) (r : Ref) (owned : Multiset Ref) : Entry → Prop
  | .primitive h ts =>
    r.index < ws.nodes.size ∧ ws.node r = .primitive h ts ∧ h.failure? = none ∧ owned = {r}
  | .dictionary h es => ∃ rs p inner, ws.node r = .dictionary h ⟨rs, p, false⟩ ∧
      h.failure? = none ∧ owned = r ::ₘ inner ∧ OwnsAll ws (some r) rs inner es

/-- The entries at the references are the trees and own these references. If they are in a
dictionary, it is the parent of those that are dictionaries. -/
def OwnsAll (ws : Workspace) (around : Option Ref) :
    List Ref → Multiset Ref → List Entry → Prop
  | [], owned, [] => owned = 0
  | r :: rs, owned, e :: es => ∃ first others, owned = first + others ∧ Owns ws r first e ∧
      (ws.isDictionary r → ∀ d ∈ around, ws.parent r = some d) ∧ OwnsAll ws around rs others es
  | _, _, _ => False

end

/-- The dictionary `d` has the entries, which own these references, and a heading and a parent. -/
def Houses (ws : Workspace) (d : Ref) (h : Heading) (p : Option Ref) (t : Bool)
    (owned : Multiset Ref) (es : List Entry) : Prop :=
  ∃ rs, ws.node d = .dictionary h ⟨rs, p, t⟩ ∧ OwnsAll ws (some d) rs owned es

theorem owns_dictionary : Owns ws r owned (.dictionary h es) ↔
    ∃ p inner, h.failure? = none ∧ owned = r ::ₘ inner ∧ ws.Houses r h p false inner es := by
  constructor
  · rintro ⟨rs, p, inner, hn, hh, ho, hes⟩
    exact ⟨p, inner, hh, ho, rs, hn, hes⟩
  · rintro ⟨p, inner, hh, ho, rs, hn, hes⟩
    exact ⟨rs, p, inner, hn, hh, ho, hes⟩

theorem lt_of_node_dictionary {m : Membership} (hn : ws.node r = .dictionary h m) :
    r.index < ws.nodes.size :=
  lt_of_isDictionary (by simp [isDictionary, hn, Node.isDictionary, Node.inside?])

theorem Owns.mem (ho : Owns ws r owned e) : r ∈ owned := by
  cases e with
  | primitive k ts =>
    obtain ⟨-, -, -, rfl⟩ := ho
    exact Multiset.mem_singleton_self r
  | dictionary k es =>
    obtain ⟨-, -, inner, -, -, rfl, -⟩ := ho
    exact Multiset.mem_cons_self r inner

theorem Owns.head (ho : Owns ws r owned e) : ws.head r = e.head := by
  cases e with
  | primitive k ts => rw [Workspace.head, ho.2.1]; rfl
  | dictionary k es =>
    obtain ⟨_, _, _, hn, -⟩ := ho
    rw [Workspace.head, hn]
    rfl

theorem Owns.isDictionary (ho : Owns ws r owned e) : ws.isDictionary r = e.isDictionary := by
  cases e with
  | primitive k ts => rw [Workspace.isDictionary, ho.2.1]; rfl
  | dictionary k es =>
    obtain ⟨_, _, _, hn, -⟩ := ho
    rw [Workspace.isDictionary, hn]
    rfl

mutual

/-- What is owned is stored. -/
theorem Owns.lt : ∀ {e : Entry} {r : Ref} {owned : Multiset Ref}, Owns ws r owned e →
    ∀ x ∈ owned, x.index < ws.nodes.size
  | .primitive .., _, _, ⟨hr, _, _, rfl⟩, x, hx => by
    rwa [Multiset.mem_singleton.mp hx]
  | .dictionary .., _, _, ⟨_, _, _, hn, _, rfl, hes⟩, x, hx => by
    rcases Multiset.mem_cons.mp hx with rfl | hx
    · exact lt_of_node_dictionary hn
    · exact hes.lt x hx

theorem OwnsAll.lt : ∀ {es : List Entry} {around : Option Ref} {rs : List Ref}
    {owned : Multiset Ref}, OwnsAll ws around rs owned es → ∀ x ∈ owned, x.index < ws.nodes.size
  | [], _, [], _, ho, x, hx => by
    cases ho
    exact absurd hx (Multiset.notMem_zero x)
  | _ :: _, _, _ :: _, _, ⟨_, _, rfl, hr, _, hrs⟩, x, hx => by
    rcases Multiset.mem_add.mp hx with hx | hx
    · exact hr.lt x hx
    · exact hrs.lt x hx

end

mutual

/-- Only the entries that are owned matter. -/
theorem Owns.congr (hs : ws.nodes.size ≤ ws'.nodes.size) :
    ∀ {e : Entry} {r : Ref} {owned : Multiset Ref}, Owns ws r owned e →
      (∀ x ∈ owned, ws'.node x = ws.node x) → Owns ws' r owned e
  | .primitive .., r, _, ⟨hr, hn, hh, rfl⟩, hx =>
    ⟨Nat.lt_of_lt_of_le hr hs, (hx r (Multiset.mem_singleton_self r)).trans hn, hh, rfl⟩
  | .dictionary .., r, _, ⟨rs, p, inner, hn, hh, rfl, hes⟩, hx =>
    ⟨rs, p, inner, (hx r (Multiset.mem_cons_self r inner)).trans hn, hh, rfl,
      hes.congr hs fun x hi => hx x (Multiset.mem_cons_of_mem hi)⟩

theorem OwnsAll.congr (hs : ws.nodes.size ≤ ws'.nodes.size) :
    ∀ {es : List Entry} {around : Option Ref} {rs : List Ref} {owned : Multiset Ref},
      OwnsAll ws around rs owned es →
      (∀ x ∈ owned, ws'.node x = ws.node x) → OwnsAll ws' around rs owned es
  | [], _, [], _, ho, _ => ho
  | _ :: _, _, r :: _, _, ⟨first, others, rfl, hr, hp, hrs⟩, hx => by
    have hn := hx r (Multiset.mem_add.mpr (.inl hr.mem))
    refine ⟨first, others, rfl, hr.congr hs fun x h => hx x (Multiset.mem_add.mpr (.inl h)), ?_,
      hrs.congr hs fun x h => hx x (Multiset.mem_add.mpr (.inr h))⟩
    rwa [Workspace.isDictionary, Workspace.parent, hn]

end

mutual

/-- A stored entry is read back, at any depth for which there are references enough. -/
theorem Owns.treeWithin : ∀ {e : Entry} {r : Ref} {owned : Multiset Ref} {depth : Nat},
    Owns ws r owned e → owned.card ≤ depth → ws.treeWithin depth r = e
  | .primitive .., _, _, depth, ⟨_, hn, _, rfl⟩, hd => by
    obtain ⟨depth, rfl⟩ := Nat.exists_eq_succ_of_ne_zero (n := depth) (by
      simp only [Multiset.card_singleton] at hd
      omega)
    simp [Workspace.treeWithin, hn]
  | .dictionary .., _, _, depth, ⟨_, _, _, hn, _, rfl, hes⟩, hd => by
    rw [Multiset.card_cons] at hd
    obtain ⟨depth, rfl⟩ := Nat.exists_eq_succ_of_ne_zero (n := depth) (by omega)
    simp only [Workspace.treeWithin, hn]
    rw [hes.treeWithin (by omega)]

theorem OwnsAll.treeWithin :
    ∀ {es : List Entry} {around : Option Ref} {rs : List Ref} {owned : Multiset Ref}
      {depth : Nat}, OwnsAll ws around rs owned es → owned.card ≤ depth → rs.map (ws.treeWithin depth) = es
  | [], _, [], _, _, _, _ => rfl
  | _ :: _, _, _ :: _, _, _, ⟨_, _, rfl, hr, _, hrs⟩, hd => by
    rw [Multiset.card_add] at hd
    rw [List.map_cons, hr.treeWithin (by omega), hrs.treeWithin (by omega)]

end

/-- There are no more references than entries. -/
theorem card_le_size (hlt : ∀ x ∈ owned, x.index < ws.nodes.size) (hn : owned.Nodup) :
    owned.card ≤ ws.nodes.size := by
  have hinj : Function.Injective Ref.index := by
    rintro ⟨i⟩ ⟨j⟩ (rfl : i = j)
    rfl
  have hle : owned.map Ref.index ≤ Multiset.range ws.nodes.size := by
    rw [Multiset.le_iff_subset (hn.map hinj)]
    intro i hi
    obtain ⟨x, hx, rfl⟩ := Multiset.mem_map.mp hi
    exact Multiset.mem_range.mpr (hlt x hx)
  simpa using Multiset.card_le_card hle

theorem Owns.tree (ho : Owns ws r owned e) (hn : owned.Nodup) : ws.tree r = e :=
  ho.treeWithin (Nat.le_succ_of_le (card_le_size ho.lt hn))

theorem OwnsAll.tree (ho : OwnsAll ws around rs owned es) (hn : owned.Nodup) :
    rs.map ws.tree = es := ho.treeWithin (Nat.le_succ_of_le (card_le_size ho.lt hn))

mutual

/-- A stored entry can be copied. -/
theorem Owns.checked : ∀ {e : Entry} {r : Ref} {owned : Multiset Ref}, Owns ws r owned e →
    e.Checked
  | .primitive .., _, _, ⟨_, _, hh, _⟩ => checked_primitive.mpr hh
  | .dictionary .., _, _, ⟨_, _, _, _, hh, _, hes⟩ => checked_dictionary.mpr ⟨hh, hes.checked⟩

theorem OwnsAll.checked : ∀ {es : List Entry} {around : Option Ref} {rs : List Ref}
    {owned : Multiset Ref}, OwnsAll ws around rs owned es → AllChecked es
  | [], _, [], _, _ => by simp [AllChecked]
  | _ :: _, _, _ :: _, _, ⟨_, _, _, hr, _, hrs⟩ => List.forall_mem_cons.mpr ⟨hr.checked, hrs.checked⟩

end

theorem Owns.single (ho : Owns ws r owned e) : OwnsAll ws none [r] owned [e] :=
  ⟨owned, 0, (add_zero _).symm, ho, by simp, rfl⟩

namespace OwnsAll

/-- Entries go on being apart from the dictionary they were in. -/
theorem loose (ho : OwnsAll ws around rs owned es) : OwnsAll ws none rs owned es := by
  induction rs generalizing owned es with
  | nil => cases es <;> exact ho
  | cons r rs ih =>
    cases es with
    | nil => exact ho
    | cons e es =>
      obtain ⟨first, others, rfl, hr, -, hrs⟩ := ho
      exact ⟨first, others, rfl, hr, by simp, ih hrs⟩

theorem append (ho : OwnsAll ws around rs owned es) (ho' : OwnsAll ws around rs' owned' es') :
    OwnsAll ws around (rs ++ rs') (owned + owned') (es ++ es') := by
  induction rs generalizing owned es with
  | nil =>
    cases es with
    | nil =>
      obtain rfl : owned = 0 := ho
      simpa using ho'
    | cons => exact ho.elim
  | cons r rs ih =>
    cases es with
    | nil => exact ho.elim
    | cons e es =>
      obtain ⟨first, others, rfl, hr, hp, hrs⟩ := ho
      exact ⟨first, others + owned', add_assoc .., hr, hp, ih hrs⟩

/-- Entries are split where their trees are. -/
theorem split (ho : OwnsAll ws around rs owned (es ++ es')) : ∃ rs₁ rs₂ owned₁ owned₂,
    rs = rs₁ ++ rs₂ ∧ owned = owned₁ + owned₂ ∧ OwnsAll ws around rs₁ owned₁ es ∧
      OwnsAll ws around rs₂ owned₂ es' := by
  induction es generalizing rs owned with
  | nil => exact ⟨[], rs, 0, owned, rfl, (zero_add _).symm, rfl, ho⟩
  | cons e es ih =>
    cases rs with
    | nil => exact ho.elim
    | cons r rs =>
      obtain ⟨first, others, rfl, hr, hp, hrs⟩ := ho
      obtain ⟨rs₁, rs₂, owned₁, owned₂, rfl, rfl, h₁, h₂⟩ := ih hrs
      exact ⟨r :: rs₁, rs₂, first + owned₁, owned₂, rfl, (add_assoc ..).symm,
        ⟨first, owned₁, rfl, hr, hp, h₁⟩, h₂⟩

theorem heads (ho : OwnsAll ws around rs owned es) : rs.map ws.head = es.map Entry.head := by
  induction rs generalizing owned es with
  | nil =>
    cases es with
    | nil => rfl
    | cons => exact ho.elim
  | cons r rs ih =>
    cases es with
    | nil => exact ho.elim
    | cons e es =>
      obtain ⟨first, others, -, hr, -, hrs⟩ := ho
      rw [List.map_cons, List.map_cons, hr.head, ih hrs]

/-- Entries are chosen by their keywords. -/
theorem filter (ho : OwnsAll ws around rs owned es) (keep : String → Bool) :
    ∃ left ≤ owned, OwnsAll ws around (rs.filter fun r => keep (ws.head r).keyword) left
      (es.filter fun e => keep e.keyword) := by
  induction rs generalizing owned es with
  | nil =>
    cases es with
    | nil => exact ⟨owned, le_rfl, ho⟩
    | cons => exact ho.elim
  | cons r rs ih =>
    cases es with
    | nil => exact ho.elim
    | cons e es =>
      obtain ⟨first, others, rfl, hr, hp, hrs⟩ := ho
      obtain ⟨left, hle, hleft⟩ := ih hrs
      rw [List.filter_cons, List.filter_cons, hr.head, ← Entry.keyword]
      split
      · exact ⟨first + left, Multiset.add_le_add_left hle, first, left, rfl, hr, hp, hleft⟩
      · exact ⟨left, hle.trans (Multiset.le_add_left ..), hleft⟩

end OwnsAll

/-! ### Changes -/

/-- A change that turns the references owned into others, of which the new ones are those of new
entries. No other entry is changed. -/
structure Turns (ws ws' : Workspace) (owned owned' : Multiset Ref) : Prop where
  size_le : ws.nodes.size ≤ ws'.nodes.size
  node_eq : ∀ x ∉ owned, x.index < ws.nodes.size → ws'.node x = ws.node x
  nodup : owned'.Nodup
  new : ∀ x ∈ owned', x ∈ owned ∨ ws.nodes.size ≤ x.index

namespace Turns

theorem refl (hn : owned.Nodup) : Turns ws ws owned owned :=
  ⟨Nat.le_refl _, fun _ _ _ => rfl, hn, fun _ => .inl⟩

theorem trans (h : Turns ws ws' owned owned') (h' : Turns ws' ws'' owned' owned'') :
    Turns ws ws'' owned owned'' := by
  refine ⟨h.size_le.trans h'.size_le, fun x hx hlt => ?_, h'.nodup, fun x hx => ?_⟩
  · have hx' : x ∉ owned' := fun hm => (h.new x hm).elim hx (Nat.not_le.mpr hlt)
    rw [h'.node_eq x hx' (Nat.lt_of_lt_of_le hlt h.size_le), h.node_eq x hx hlt]
  · rcases h'.new x hx with hx | hx
    · exact h.new x hx
    · exact .inr (h.size_le.trans hx)

/-- Some of what was owned is given up. -/
theorem of_le (h : Turns ws ws' owned owned') (hle : owned'' ≤ owned') :
    Turns ws ws' owned owned'' :=
  ⟨h.size_le, h.node_eq, Multiset.nodup_of_le hle h.nodup,
    fun x hx => h.new x (Multiset.mem_of_le hle hx)⟩

theorem disjoint (h : Turns ws ws' owned owned') (hlt : ∀ x ∈ others, x.index < ws.nodes.size)
    (hd : Disjoint owned others) : Disjoint owned' others := by
  refine Multiset.disjoint_left.mpr fun {x} hx ho => ?_
  rcases h.new x hx with hx | hx
  · exact Multiset.disjoint_left.mp hd hx ho
  · exact Nat.not_lt.mpr hx (hlt x ho)

/-- Other references stay owned. -/
theorem frame (h : Turns ws ws' owned owned') (hlt : ∀ x ∈ others, x.index < ws.nodes.size)
    (hn : (owned + others).Nodup) : Turns ws ws' (owned + others) (owned' + others) := by
  obtain ⟨-, hothers, hd⟩ := Multiset.nodup_add.mp hn
  refine ⟨h.size_le, fun x hx hl => h.node_eq x (fun hm => hx ?_) hl, ?_, fun x hx => ?_⟩
  · exact Multiset.mem_add.mpr (.inl hm)
  · exact Multiset.nodup_add.mpr ⟨h.nodup, hothers, h.disjoint hlt hd⟩
  · rcases Multiset.mem_add.mp hx with hx | hx
    · exact (h.new x hx).imp_left fun hm => Multiset.mem_add.mpr (.inl hm)
    · exact .inl (Multiset.mem_add.mpr (.inr hx))

theorem owns (h : Turns ws ws' owned owned') (ho : Owns ws r others e)
    (hd : Disjoint owned others) : Owns ws' r others e :=
  ho.congr h.size_le fun x hx =>
    h.node_eq x (fun hm => Multiset.disjoint_left.mp hd hm hx) (ho.lt x hx)

theorem ownsAll (h : Turns ws ws' owned owned') (ho : OwnsAll ws around rs others es)
    (hd : Disjoint owned others) : OwnsAll ws' around rs others es :=
  ho.congr h.size_le fun x hx =>
    h.node_eq x (fun hm => Multiset.disjoint_left.mp hd hm hx) (ho.lt x hx)

end Turns

end Workspace

end CaseDict
