import CaseDict.Proofs.Planting
import CaseDict.Proofs.Run
/-! # Merging does not fail

Only entries that came with a statement are copied when dictionaries are merged, and these can be
copied. So in every mode but `error` an entry that can be copied can be placed. -/

namespace CaseDict

theorem InputMode.placement_ne_refuse {mode : InputMode} (hm : mode ≠ .error) (mergeable : Bool) :
    mode.placement mergeable ≠ .refuse := by
  cases mode <;> cases mergeable <;> first | decide | exact absurd rfl hm

namespace Workspace

open Entry

variable {α β : Type} {ws : Workspace} {d r : Ref} {least : Nat}

/-! ### Entries that can be copied -/

/-- The entries from the place `least` on have well formed keywords, and only such entries in
them. -/
structure CheckedFrom (least : Nat) (ws : Workspace) : Prop where
  le_size : least ≤ ws.nodes.size
  head : ∀ r : Ref, least ≤ r.index → (ws.head r).failure? = none
  members : ∀ r : Ref, least ≤ r.index → ∀ x ∈ ws.members r, least ≤ x.index

namespace CheckedFrom

theorem of_size (ws : Workspace) : CheckedFrom ws.nodes.size ws := by
  refine ⟨Nat.le_refl _, fun r hr => ?_, fun r hr => ?_⟩
  · rw [Workspace.head, node_of_size_le hr]
    rfl
  · simp [Workspace.members, node_of_size_le hr, Node.inside?]

/-- A change of the members of a dictionary. -/
theorem mapInside (h : CheckedFrom least ws) {f : Membership → Membership}
    (hf : ∀ m : Membership, (∀ x ∈ m.members, least ≤ x.index) →
      ∀ x ∈ (f m).members, least ≤ x.index) :
    CheckedFrom least (ws.update d (·.mapInside f)) := by
  refine ⟨?_, fun r hr => ?_, fun r hr => ?_⟩
  · rw [size_update]
    exact h.le_size
  · rw [head_mapInside]
    exact h.head r hr
  · have hm := h.members r hr
    simp only [Workspace.members, node_mapInside]
    split
    · next hrd =>
      subst hrd
      simp only [Workspace.members] at hm
      cases hn : ws.node r with
      | primitive => simp [Node.mapInside, Node.inside?]
      | dictionary k m =>
        rw [hn] at hm
        exact hf m hm
    · exact hm

theorem filterMembers (h : CheckedFrom least ws) (keep : String → Bool) :
    CheckedFrom least (ws.filterMembers d keep) :=
  h.mapInside fun _ hm x hx => hm x (List.mem_filter.mp hx).1

theorem append (h : CheckedFrom least ws) (hr : least ≤ r.index) :
    CheckedFrom least (ws.append d r) :=
  h.mapInside fun m hm => List.forall_mem_append.mpr ⟨hm, by simpa using hr⟩

theorem insert (h : CheckedFrom least ws) (hr : least ≤ r.index) :
    CheckedFrom least (ws.insert d r) := .append (h.mapInside fun _ hm => hm) hr

theorem mergeLines (h : CheckedFrom least ws) (other : Ref) :
    CheckedFrom least (ws.mergeLines d other) := by
  have hn (r : Ref) : (ws.mergeLines d other).node r = ws.node r ∨
      r = d ∧ (ws.mergeLines d other).node r =
        (ws.node r).withHead (mergedHead (ws.node r).head (ws.head other)) := node_update_cases _
  refine ⟨?_, fun r hr => ?_, fun r hr => ?_⟩
  · exact (size_update _).symm ▸ h.le_size
  · have hh := h.head r hr
    rcases hn r with hn | ⟨rfl, hn⟩
    · rwa [Workspace.head, hn]
    · rw [Workspace.head, hn, Node.head_withHead, failure?_mergedHead]
      exact hh
  · have hm := h.members r hr
    rcases hn r with hn | ⟨rfl, hn⟩
    · rwa [Workspace.members, hn]
    · rw [Workspace.members, hn, Node.inside?_withHead]
      exact hm

theorem alloc (h : CheckedFrom least ws) {n : Node} (hn : n.head.failure? = none)
    (hm : ∀ m, n.inside? = some m → m.members = []) : CheckedFrom least (ws.alloc n).2 := by
  have hle := h.le_size
  refine ⟨by rw [size_alloc]; omega, fun r hr => ?_, fun r hr => ?_⟩
  · rw [Workspace.head, node_alloc]
    split
    · exact hn
    · exact h.head r hr
  · rw [Workspace.members, node_alloc]
    split
    · cases hi : n.inside? with
      | none => simp
      | some m => simp [hm m hi]
    · exact h.members r hr

mutual

theorem plant : ∀ {e : Entry} {ws : Workspace} {parent : Option Ref}, CheckedFrom least ws →
    e.Checked → CheckedFrom least (ws.plant parent e).2
  | .primitive k ts, _, _, h, he =>
    h.alloc (checked_primitive.mp he) fun _ hm => by contradiction
  | .dictionary k es, _, _, h, he => by
    rw [checked_dictionary] at he
    refine plantAll (h.alloc he.1 fun m hm => ?_) he.2
    rw [← Option.some.inj hm]

theorem plantAll : ∀ {es : List Entry} {ws : Workspace} {d : Ref}, CheckedFrom least ws →
    AllChecked es → CheckedFrom least (ws.plantAll d es)
  | [], _, _, h, _ => h
  | e :: es, ws, d, h, he => by
    have hp : CheckedFrom least (ws.plant (some d) e).2 := h.plant (he e (by simp))
    refine (hp.append ?_).plantAll fun x hx => he x (List.mem_cons_of_mem _ hx)
    rw [(plant_spec e ws (some d)).1]
    exact h.le_size

end

theorem treeWithin (h : CheckedFrom least ws) (depth : Nat) :
    ∀ {r : Ref}, least ≤ r.index → (ws.treeWithin depth r).Checked := by
  induction depth with
  | zero => intro r hr; exact checked_primitive.mpr (h.head r hr)
  | succ depth ih =>
    intro r hr
    have hh := h.head r hr
    have hm := h.members r hr
    simp only [Workspace.head, Workspace.members] at hh hm
    unfold Workspace.treeWithin
    cases hn : ws.node r with
    | primitive k ts =>
      rw [hn] at hh
      exact checked_primitive.mpr hh
    | dictionary k m =>
      rw [hn] at hh hm
      refine checked_dictionary.mpr ⟨hh, fun e he => ?_⟩
      obtain ⟨x, hx, rfl⟩ := List.mem_map.mp he
      exact ih (hm x hx)

theorem tree (h : CheckedFrom least ws) (hr : least ≤ r.index) : (ws.tree r).Checked :=
  h.treeWithin _ hr

end CheckedFrom

theorem clone_eq (h : (ws.tree r).Checked) :
    ws.clone r = .ok (ws.plant (ws.parent r) (ws.tree r)) := by
  have hc : ((ws.tree r).withHead { (ws.tree r).head with keyword := (ws.tree r).keyword }).copy =
      .ok (ws.tree r) := by
    rw [copy_eq_ok]
    refine ⟨@Checked.withHead _ h (ws.tree r).head.startLine (ws.tree r).head.endLine, ?_⟩
    cases ws.tree r <;> rfl
  simp only [clone, Option.getD_none, hc]
  rfl

/-! ### Changes that do not fail -/

/-- The change does not fail, and keeps the entries from the place `least` on well formed. -/
def Safe (least : Nat) (m : Change α) : Prop :=
  ∀ ws, CheckedFrom least ws → ∃ a, (exec m ws).1 = .ok a ∧ CheckedFrom least (exec m ws).2

namespace Safe

theorem pure (a : α) : Safe least (Pure.pure a) := fun _ h => ⟨a, rfl, h⟩

theorem set (h : CheckedFrom least ws) : Safe least (set ws : Change PUnit) :=
  fun _ _ => ⟨⟨⟩, rfl, h⟩

theorem modify {f : Workspace → Workspace}
    (hf : ∀ ws, CheckedFrom least ws → CheckedFrom least (f ws)) :
    Safe least (modify f : Change PUnit) := fun ws h => ⟨⟨⟩, rfl, hf ws h⟩

theorem bind {m : Change α} {k : α → Change β} (hm : Safe least m) (hk : ∀ a, Safe least (k a)) :
    Safe least (m >>= k) := by
  intro ws h
  obtain ⟨a, ha, h'⟩ := hm ws h
  rw [exec_bind]
  rcases he : exec m ws with ⟨_ | b, ws'⟩
  · simp [he] at ha
  · rw [he] at h'
    exact hk b ws' h'

/-- What follows may rely on what is seen of the workspace. -/
theorem get_bind {k : Workspace → Change α} (hk : ∀ ws, CheckedFrom least ws → Safe least (k ws)) :
    Safe least (get >>= k) := fun ws h => hk ws h ws h

theorem forM {γ : Type} {f : γ → Change PUnit} {l : List γ} (hf : ∀ a ∈ l, Safe least (f a)) :
    Safe least (l.forM f) := by
  induction l with
  | nil => exact .pure _
  | cons a l ih =>
    exact .bind (hf a (by simp)) fun _ => ih fun x hx => hf x (List.mem_cons_of_mem _ hx)

theorem replace {d e : Ref} (he : least ≤ e.index) : Safe least (mergeWithin.replace d e) := by
  unfold mergeWithin.replace
  refine .get_bind fun ws h => ?_
  have hf := h.filterMembers (d := d) (· != (ws.head e).keyword)
  refine .bind (.set hf) fun _ => ?_
  rw [clone_eq (hf.tree he)]
  refine .set ((hf.plant (hf.tree he)).insert ?_)
  rw [(plant_spec _ _ _).1]
  exact hf.le_size

theorem mergeWithin (depth : Nat) : ∀ {d other : Ref}, least ≤ other.index →
    Safe least (mergeWithin depth d other) := by
  induction depth with
  | zero => intro d other _; exact .pure _
  | succ depth ih =>
    intro d other ho
    unfold Workspace.mergeWithin
    refine .get_bind fun ws h => ?_
    refine .bind (.forM fun e he => ?_) fun _ => .modify fun ws' h' => h'.mergeLines _
    have he : least ≤ e.index := h.members other ho e he
    refine .get_bind fun ws _ => ?_
    split
    · split
      · exact ih he
      · exact .replace he
    · exact .replace he

theorem place {mode : InputMode} (hm : mode ≠ .error) {d e : Ref} (he : least ≤ e.index) :
    Safe least (place mode d e) := by
  unfold Workspace.place
  refine .get_bind fun ws h => ?_
  extract_lets k
  have hinsert : Safe least
      (do MonadStateOf.set (ws.insert d e); return ([e], []) : Change (List Ref × List Event)) :=
    .bind (.set (h.insert he)) fun _ => .pure _
  split
  · exact hinsert
  · next old _ =>
    extract_lets first
    split
    · exact hinsert
    · refine .bind ?_ fun _ => .pure _
      exact .get_bind fun ws _ => .mergeWithin _ he
    · exact .bind (.set ((h.filterMembers _).insert he)) fun _ => .pure _
    · exact .pure _
    · next hp => exact absurd hp (InputMode.placement_ne_refuse hm _)

end Safe

end Workspace

end CaseDict
