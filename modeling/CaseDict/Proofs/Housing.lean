import CaseDict.Proofs.Ownership
import CaseDict.Proofs.Merging
/-! # What changes make of owned entries

Each change of a workspace makes of the entries that are owned what the change of trees makes of the
trees: storing and copying trees, adding and removing members. -/

namespace CaseDict

namespace Workspace

open Entry

variable {ws ws' : Workspace} {d r : Ref} {e : Entry} {es : List Entry}
  {p : Option Ref} {owned first : Multiset Ref} {h : Heading} {t : Bool}

/-! ### One entry -/

theorem node_update_of_ne (f : Node → Node) {x : Ref} (hx : x ≠ r) :
    (ws.update r f).node x = ws.node x := by
  rcases @node_update_cases ws r x f with h | ⟨h, -⟩
  · exact h
  · exact absurd h hx

theorem node_update_self (f : Node → Node) (hr : r.index < ws.nodes.size) :
    (ws.update r f).node r = f (ws.node r) := by
  obtain ⟨i⟩ := r
  have hi : i < ws.nodes.size := hr
  simp [update, store, node, Array.getD_eq_getD_getElem?, hi]

theorem Turns.update (f : Node → Node) (hn : owned.Nodup) (hr : r ∈ owned) :
    Turns ws (ws.update r f) owned owned := by
  refine ⟨(size_update f).ge, fun x hx _ => node_update_of_ne f ?_, hn, fun _ => .inl⟩
  rintro rfl
  exact hx hr

theorem Turns.alloc (ws : Workspace) (n : Node) :
    Turns ws (ws.alloc n).2 0 {⟨ws.nodes.size⟩} := by
  refine ⟨(Extends.alloc n).size_le, fun x _ hx => (Extends.alloc n).node_eq x hx,
    Multiset.nodup_singleton _, fun x hx => ?_⟩
  rw [Multiset.mem_singleton.mp hx]
  exact .inr (Nat.le_refl _)

/-- An entry that changes is not among others that are owned. -/
theorem OwnsAll.update {around : Option Ref} {rs : List Ref} (ho : OwnsAll ws around rs owned es)
    (f : Node → Node) (hr : r ∉ owned) : OwnsAll (ws.update r f) around rs owned es := by
  refine ho.congr (size_update f).ge fun x hx => node_update_of_ne f ?_
  rintro rfl
  exact hr hx

/-- An entry goes to another dictionary. -/
theorem Owns.adopt (ho : Owns ws r owned e) (hn : owned.Nodup) (p : Option Ref) :
    Owns (ws.update r (·.mapInside fun m => { m with parent := p })) r owned e ∧
      ((ws.update r (·.mapInside fun m => { m with parent := p })).isDictionary r →
        (ws.update r (·.mapInside fun m => { m with parent := p })).parent r = p) := by
  cases e with
  | primitive k ts =>
    obtain ⟨hr, hnode, hh, rfl⟩ := ho
    have hnode' : (ws.update r (·.mapInside fun m => { m with parent := p })).node r =
        .primitive k ts := by
      rw [node_mapInside, if_pos rfl, hnode]
      rfl
    refine ⟨⟨(size_update _).symm ▸ hr, hnode', hh, rfl⟩, fun hd => ?_⟩
    rw [Workspace.isDictionary, hnode'] at hd
    contradiction
  | dictionary k es =>
    obtain ⟨rs, q, inner, hnode, hh, rfl, hes⟩ := ho
    have hnode' : (ws.update r (·.mapInside fun m => { m with parent := p })).node r =
        .dictionary k ⟨rs, p, false⟩ := by
      rw [node_mapInside, if_pos rfl, hnode]
      rfl
    refine ⟨⟨rs, p, inner, hnode', hh, rfl, hes.update _ (Multiset.nodup_cons.mp hn).1⟩, ?_⟩
    rw [Workspace.parent, hnode']
    exact fun _ => rfl

/-! ### Members -/

namespace Houses

theorem mem_lt (hd : Houses ws d h p t owned es) : ∀ x ∈ d ::ₘ owned, x.index < ws.nodes.size := by
  obtain ⟨rs, hnode, hes⟩ := hd
  intro x hx
  rcases Multiset.mem_cons.mp hx with rfl | hx
  · exact lt_of_node_dictionary hnode
  · exact hes.lt x hx

/-- A change elsewhere. -/
theorem turns {owned₁ owned₂ : Multiset Ref} (hd : Houses ws d h p t owned es)
    (ht : Turns ws ws' owned₁ owned₂) (hdisj : Disjoint owned₁ (d ::ₘ owned)) :
    Houses ws' d h p t owned es := by
  obtain ⟨hmem, hdisj⟩ := Multiset.disjoint_cons_right.mp hdisj
  have hlt := hd.mem_lt d (Multiset.mem_cons_self d owned)
  obtain ⟨rs, hnode, hes⟩ := hd
  exact ⟨rs, (ht.node_eq d hmem hlt).trans hnode, ht.ownsAll hes hdisj⟩

theorem append (hd : Houses ws d h p t owned es) (hr : Owns ws r first e)
    (hp : ws.isDictionary r → ws.parent r = some d) (hn : (d ::ₘ (owned + first)).Nodup) :
    Houses (ws.append d r) d h p t (owned + first) (es ++ [e]) := by
  have hnot := (Multiset.nodup_cons.mp hn).1
  obtain ⟨rs, hnode, hes⟩ := hd
  have hall : OwnsAll ws (some d) (rs ++ [r]) (owned + first) (es ++ [e]) := by
    refine hes.append ⟨first, 0, (add_zero _).symm, hr, fun hr x hx => ?_, rfl⟩
    exact Option.mem_some.mp hx ▸ hp hr
  refine ⟨rs ++ [r], ?_, hall.update _ hnot⟩
  rw [node_append, if_pos rfl, hnode]
  rfl

/-- An entry apart becomes the last member. -/
theorem insert (hd : Houses ws d h p t owned es) (hr : Owns ws r first e)
    (hn : (d ::ₘ (owned + first)).Nodup) :
    Houses (ws.insert d r) d h p t (owned + first) (es ++ [e]) ∧
      Turns ws (ws.insert d r) (d ::ₘ (owned + first)) (d ::ₘ (owned + first)) := by
  have hmem : r ∈ d ::ₘ (owned + first) :=
    Multiset.mem_cons_of_mem (Multiset.mem_add.mpr (.inr hr.mem))
  obtain ⟨hnd, hnodup⟩ := Multiset.nodup_cons.mp hn
  obtain ⟨-, hfirst, hdisj⟩ := Multiset.nodup_add.mp hnodup
  obtain ⟨hr', hp'⟩ := hr.adopt hfirst (some d)
  have hadopt : Turns ws (ws.update r (·.mapInside fun m => { m with parent := some d }))
      first first := .update _ hfirst hr.mem
  have hd' := hd.turns hadopt (Multiset.disjoint_cons_right.mpr
    ⟨fun hx => hnd (Multiset.mem_add.mpr (.inr hx)), hdisj.symm⟩)
  refine ⟨hd'.append hr' hp' hn, ?_⟩
  exact (Turns.update _ hn hmem).trans (.update _ hn (Multiset.mem_cons_self d _))

theorem filterMembers (hd : Houses ws d h p t owned es) (hn : (d ::ₘ owned).Nodup)
    (keep : String → Bool) : ∃ left ≤ owned,
      Houses (ws.filterMembers d keep) d h p t left (es.filter fun e => keep e.keyword) ∧
        Turns ws (ws.filterMembers d keep) (d ::ₘ owned) (d ::ₘ left) := by
  obtain ⟨rs, hnode, hes⟩ := hd
  obtain ⟨left, hle, hleft⟩ := hes.filter keep
  refine ⟨left, hle, ⟨_, ?_, hleft.update _ fun hx => ?_⟩, ?_⟩
  · rw [node_filterMembers, if_pos rfl, hnode]
    rfl
  · exact (Multiset.nodup_cons.mp hn).1 (Multiset.mem_of_le hle hx)
  · exact (Turns.update _ hn (Multiset.mem_cons_self d owned)).of_le
      ((Multiset.cons_le_cons_iff d).mpr hle)

theorem withHead (hd : Houses ws d h p t owned es) (hn : (d ::ₘ owned).Nodup) (h' : Heading) :
    Houses (ws.update d (·.withHead h')) d h' p t owned es := by
  have hlt := hd.mem_lt d (Multiset.mem_cons_self d owned)
  obtain ⟨rs, hnode, hes⟩ := hd
  refine ⟨rs, ?_, hes.update _ (Multiset.nodup_cons.mp hn).1⟩
  rw [node_update_self _ hlt, hnode]
  rfl

end Houses

theorem Owns.withHead (ho : Owns ws r owned e) (hn : owned.Nodup) {h' : Heading}
    (hh : h'.failure? = none) : Owns (ws.update r (·.withHead h')) r owned (e.withHead h') := by
  cases e with
  | primitive k ts =>
    obtain ⟨hr, hnode, -, rfl⟩ := ho
    refine ⟨(size_update _).symm ▸ hr, ?_, hh, rfl⟩
    rw [node_update_self _ hr, hnode]
    rfl
  | dictionary k es =>
    obtain ⟨p, inner, -, rfl, hd⟩ := owns_dictionary.mp ho
    exact owns_dictionary.mpr ⟨p, inner, hh, rfl, hd.withHead hn h'⟩

/-! ### New entries -/

mutual

/-- A tree that is stored is owned, by new references only. -/
theorem plant_owns : ∀ {e : Entry}, e.Checked → ∀ (ws : Workspace) (p : Option Ref), ∃ owned,
    Owns (ws.plant p e).2 (ws.plant p e).1 owned e ∧ Turns ws (ws.plant p e).2 0 owned ∧
      ((ws.plant p e).2.isDictionary (ws.plant p e).1 →
        (ws.plant p e).2.parent (ws.plant p e).1 = p)
  | .primitive k ts, he, ws, p => by
    have hnode : (ws.alloc (.primitive k ts)).2.node ⟨ws.nodes.size⟩ = .primitive k ts := by
      rw [node_alloc, if_pos rfl]
    refine ⟨{⟨ws.nodes.size⟩}, ⟨?_, hnode, checked_primitive.mp he, rfl⟩, .alloc _ _, fun hd => ?_⟩
    · exact (Nat.lt_succ_self _).trans_eq (size_alloc _).symm
    · rw [plant, Workspace.isDictionary, show (ws.alloc _).1 = ⟨ws.nodes.size⟩ from rfl, hnode] at hd
      contradiction
  | .dictionary k es, he, ws, p => by
    obtain ⟨hk, hes⟩ := checked_dictionary.mp he
    have hnode : (ws.alloc (.dictionary k { parent := p })).2.node ⟨ws.nodes.size⟩ =
        .dictionary k { parent := p } := by rw [node_alloc, if_pos rfl]
    have hnew : Houses (ws.alloc (.dictionary k { parent := p })).2 ⟨ws.nodes.size⟩ k p false 0 [] :=
      ⟨[], hnode, rfl⟩
    obtain ⟨inner, hall, ht⟩ := plantAll_owns hes hnew (by simp)
    rw [zero_add] at hall ht
    have hturns : Turns ws (ws.plant p (.dictionary k es)).2 0 (⟨ws.nodes.size⟩ ::ₘ inner) :=
      (Turns.alloc ws _).trans ht
    refine ⟨_, owns_dictionary.mpr ⟨p, inner, hk, rfl, hall⟩, hturns, fun _ => ?_⟩
    obtain ⟨rs, hrs, -⟩ := hall
    exact congrArg (fun n : Node => n.inside?.bind (·.parent)) hrs

theorem plantAll_owns : ∀ {es : List Entry}, AllChecked es → ∀ {ws : Workspace} {d : Ref}
    {h : Heading} {p : Option Ref} {t : Bool} {owned : Multiset Ref} {before : List Entry},
    Houses ws d h p t owned before → (d ::ₘ owned).Nodup → ∃ more,
      Houses (ws.plantAll d es) d h p t (owned + more) (before ++ es) ∧
        Turns ws (ws.plantAll d es) (d ::ₘ owned) (d ::ₘ (owned + more))
  | [], _, ws, d, h, p, t, owned, before, hd, hn => by
    refine ⟨0, ?_, ?_⟩ <;> simp only [add_zero, List.append_nil, plantAll]
    · exact hd
    · exact .refl hn
  | e :: es, hes, ws, d, h, p, t, owned, before, hd, hn => by
    obtain ⟨he, hes⟩ := List.forall_mem_cons.mp hes
    obtain ⟨first, hr, hturns, hp⟩ := plant_owns he ws (some d)
    -- the new entry is apart from the dictionary
    have hframe := hturns.frame hd.mem_lt ((zero_add (d ::ₘ owned)).symm ▸ hn)
    have hsum : first + d ::ₘ owned = d ::ₘ (owned + first) := by
      rw [Multiset.add_cons, add_comm]
    rw [zero_add, hsum] at hframe
    have hd' := (hd.turns hturns (Multiset.zero_disjoint _)).append hr hp hframe.nodup
    have happend : Turns (ws.plant (some d) e).2
        ((ws.plant (some d) e).2.append d (ws.plant (some d) e).1)
        (d ::ₘ (owned + first)) (d ::ₘ (owned + first)) :=
      .update _ hframe.nodup (Multiset.mem_cons_self d _)
    obtain ⟨more, hmore, hturns'⟩ := plantAll_owns hes hd' hframe.nodup
    refine ⟨first + more, ?_, ?_⟩
    · rw [← add_assoc, List.append_cons]
      exact hmore
    · rw [← add_assoc]
      exact (hframe.trans happend).trans hturns'

end

/-- A copy of an entry shares nothing with it. -/
theorem clone_owns (hr : Owns ws r owned e) (hn : owned.Nodup) : ∃ copy ws' new,
    ws.clone r = .ok (copy, ws') ∧ Owns ws' copy new e ∧ Turns ws ws' 0 new := by
  have htree := hr.tree hn
  have hclone : ws.clone r = .ok (ws.plant (ws.parent r) e) := by
    rw [clone_eq (htree.symm ▸ hr.checked), htree]
  obtain ⟨new, ho, ht, -⟩ := plant_owns hr.checked ws (ws.parent r)
  exact ⟨_, _, new, hclone, ho, ht⟩

end Workspace

end CaseDict
