import CaseDict.Workspace
/-! # Changes of a workspace

What the operations on a workspace do to its nodes, as equations on `Workspace.node`. -/

namespace CaseDict

namespace Workspace

variable {ws : Workspace} {d r : Ref}

theorem node_update (f : Node → Node) (hf : ∀ h ts, f (.primitive h ts) = .primitive h ts) :
    (ws.update d f).node r = if r = d then f (ws.node d) else ws.node r := by
  obtain ⟨i⟩ := d
  obtain ⟨j⟩ := r
  simp only [update, store, node, Ref.mk.injEq, Array.getD_eq_getD_getElem?,
    Array.getElem?_setIfInBounds]
  split
  · next h =>
    subst h
    by_cases hi : i < ws.nodes.size
    · simp [hi]
    · simp [hi, hf]
  · next h =>
    rw [if_neg (Ne.symm h)]

/-- A change of an entry that is not there has no effect. -/
theorem node_update_cases (f : Node → Node) : (ws.update d f).node r = ws.node r ∨
    r = d ∧ (ws.update d f).node r = f (ws.node r) := by
  obtain ⟨i⟩ := d
  obtain ⟨j⟩ := r
  simp only [update, store, node, Ref.mk.injEq, Array.getD_eq_getD_getElem?,
    Array.getElem?_setIfInBounds]
  split
  · next h =>
    subst h
    by_cases hi : i < ws.nodes.size
    · simp [hi]
    · simp [hi]
  · exact .inl rfl

theorem node_mapInside (f : Membership → Membership) :
    (ws.update d (·.mapInside f)).node r =
      if r = d then (ws.node d).mapInside f else ws.node r := node_update _ fun _ _ => rfl

theorem size_update (f : Node → Node) : (ws.update d f).nodes.size = ws.nodes.size := by
  simp [update, store]

@[simp] theorem Node.head_mapInside (n : Node) (f : Membership → Membership) :
    (n.mapInside f).head = n.head := by cases n <;> rfl

@[simp] theorem Node.head_withHead (n : Node) (h : Heading) : (n.withHead h).head = h := by
  cases n <;> rfl

@[simp] theorem Node.inside?_withHead (n : Node) (h : Heading) :
    (n.withHead h).inside? = n.inside? := by cases n <;> rfl

theorem head_mapInside (f : Membership → Membership) :
    (ws.update d (·.mapInside f)).head r = ws.head r := by
  simp only [head, node_mapInside]
  split
  · next h => rw [h, Node.head_mapInside]
  · rfl

/-- Members are changed with nothing else. -/
theorem node_filterMembers (keep : String → Bool) : (ws.filterMembers d keep).node r =
    if r = d then (ws.node d).mapInside fun m =>
      { m with members := m.members.filter fun e => keep (ws.head e).keyword } else ws.node r :=
  node_mapInside _

theorem isTransparent_filterMembers (keep : String → Bool) :
    (ws.filterMembers d keep).isTransparent r = ws.isTransparent r := by
  simp only [isTransparent, node_filterMembers]
  split
  · next h => rw [h]; cases ws.node d <;> rfl
  · rfl

theorem removeAll_append (rs rs' : List Removal) :
    ws.removeAll d (rs ++ rs') = (ws.removeAll d rs).removeAll d rs' := List.foldl_append ..

theorem isTransparent_removeAll (rs : List Removal) :
    (ws.removeAll d rs).isTransparent r = ws.isTransparent r := by
  induction rs generalizing ws with
  | nil => rfl
  | cons x rs ih => exact ih.trans (isTransparent_filterMembers _)

theorem chain_eq (ws : Workspace) (d : Ref) : ∃ outer, ws.chain d = d :: outer := by
  unfold chain
  cases ws.nodes.size with
  | zero => exact ⟨[], rfl⟩
  | succ n =>
    unfold chainWithin
    split
    · exact ⟨[], rfl⟩
    · exact ⟨_, rfl⟩

theorem through_eq (ws : Workspace) {d : Ref} (hd : ws.isTransparent d = false) :
    ws.through d = [d] := by
  obtain ⟨outer, h⟩ := ws.chain_eq d
  simp [through, h, hd]

end Workspace
end CaseDict
