import CaseDict.Proofs.Combining
import CaseDict.Proofs.Viewing
import CaseDict.Scope
/-! # Dictionaries that are being read

While statements are read in place, the dictionaries and blocks that are open stand one under the
other (`Workspace.Stacks`), each with entries of its own. What is seen from the innermost one is
what is seen in the frames, and placing and removing do to it what they do to a scope. -/

namespace CaseDict

namespace Workspace

open Entry

variable {ws ws' : Workspace} {d r : Ref} {ds : List Ref} {e : Entry} {es : List Entry}
  {f : Frame Entry} {fs : List (Frame Entry)} {p : Option Ref}
  {owned owned₁ owned₂ first : Multiset Ref} {h : Heading} {t : Bool}

/-- The dictionaries, each of them under the next, have the entries of the frames and own these
references. -/
def Stacks (ws : Workspace) : List Ref → Multiset Ref → List (Frame Entry) → Prop
  | [], owned, [] => owned = 0
  | d :: ds, owned, f :: fs => ∃ h inner outer, owned = d ::ₘ inner + outer ∧
      Houses ws d h ds.head? f.transparent inner f.entries ∧ Stacks ws ds outer fs
  | _, _, _ => False

namespace Stacks

theorem lt (hs : Stacks ws ds owned fs) : ∀ x ∈ owned, x.index < ws.nodes.size := by
  induction ds generalizing owned fs with
  | nil =>
    cases fs with
    | nil =>
      cases hs
      simp
    | cons => exact hs.elim
  | cons d ds ih =>
    cases fs with
    | nil => exact hs.elim
    | cons f fs =>
      obtain ⟨h, inner, outer, rfl, hd, hs⟩ := hs
      intro x hx
      rcases Multiset.mem_add.mp hx with hx | hx
      · exact hd.mem_lt x hx
      · exact ih hs x hx

/-- A change elsewhere. -/
theorem turns (hs : Stacks ws ds owned fs) (ht : Turns ws ws' owned₁ owned₂)
    (hdisj : Disjoint owned₁ owned) : Stacks ws' ds owned fs := by
  induction ds generalizing owned fs with
  | nil => cases fs <;> exact hs
  | cons d ds ih =>
    cases fs with
    | nil => exact hs.elim
    | cons f fs =>
      obtain ⟨h, inner, outer, rfl, hd, hs⟩ := hs
      obtain ⟨hd', hs'⟩ := Multiset.disjoint_add_right.mp hdisj
      exact ⟨h, inner, outer, rfl, hd.turns ht hd', ih hs hs'⟩

theorem length_le (hs : Stacks ws ds owned fs) : ds.length ≤ owned.card := by
  induction ds generalizing owned fs with
  | nil => exact Nat.zero_le _
  | cons d ds ih =>
    cases fs with
    | nil => exact hs.elim
    | cons f fs =>
      obtain ⟨h, inner, outer, rfl, -, hs⟩ := hs
      have := ih hs
      simp only [List.length_cons, Multiset.card_add, Multiset.card_cons]
      omega

theorem chainWithin {n : Nat} (hs : Stacks ws (d :: ds) owned fs) (hn : ds.length ≤ n) :
    ws.chainWithin n d = d :: ds := by
  induction ds generalizing d owned fs n with
  | nil =>
    cases fs with
    | nil => exact hs.elim
    | cons f fs =>
      obtain ⟨h, inner, outer, -, ⟨rs, hnode, -⟩, -⟩ := hs
      have hp : ws.parent d = none := by rw [Workspace.parent, hnode]; rfl
      cases n with
      | zero => rfl
      | succ n => rw [Workspace.chainWithin, hp]
  | cons d' ds ih =>
    cases fs with
    | nil => exact hs.elim
    | cons f fs =>
      obtain ⟨h, inner, outer, -, ⟨rs, hnode, -⟩, hs⟩ := hs
      have hp : ws.parent d = some d' := by rw [Workspace.parent, hnode]; rfl
      obtain ⟨n, rfl⟩ := Nat.exists_eq_succ_of_ne_zero (n := n) (by
        rw [List.length_cons] at hn
        omega)
      rw [Workspace.chainWithin, hp]
      exact congrArg _ (ih hs (Nat.le_of_succ_le_succ hn))

theorem chain (hs : Stacks ws (d :: ds) owned fs) (hn : owned.Nodup) :
    ws.chain d = d :: ds := by
  have hlen := hs.length_le
  have hcard := card_le_size hs.lt hn
  rw [List.length_cons] at hlen
  exact hs.chainWithin (by omega)

/-! ### What is seen -/

theorem map_eq (hs : Stacks ws ds owned fs) (hn : owned.Nodup) :
    ds.map (fun d => (⟨(ws.members d).map ws.tree, ws.isTransparent d⟩ : Frame Entry)) = fs := by
  induction ds generalizing owned fs with
  | nil =>
    cases fs with
    | nil => rfl
    | cons => exact hs.elim
  | cons d ds ih =>
    cases fs with
    | nil => exact hs.elim
    | cons f fs =>
      obtain ⟨h, inner, outer, rfl, hd, hs⟩ := hs
      obtain ⟨hdn, hn, -⟩ := Multiset.nodup_add.mp hn
      have htree := hd.members.tree (Multiset.nodup_cons.mp hdn).2
      obtain ⟨rs, hnode, -⟩ := hd
      rw [List.map_cons, ih hs hn, htree, isTransparent, hnode]
      rfl

/-- What is seen from the innermost dictionary are the frames. -/
theorem frames_eq (hs : Stacks ws (d :: ds) owned fs) (hn : owned.Nodup) (placed : List Ref)
    (removed : List Removal) : (Scope.stored ws d placed removed).frames = fs := by
  simp only [Scope.frames, frames, hs.chain hn, List.map_map, Function.comp_def]
  exact hs.map_eq hn

end Stacks

/-- The entry at `r` is the tree and is among what is owned. -/
def Shows (ws : Workspace) (owned : Multiset Ref) (r : Ref) (e : Entry) : Prop :=
  ∃ own ≤ owned, Owns ws r own e

theorem OwnsAll.shows {around : Option Ref} {rs : List Ref} (ho : OwnsAll ws around rs owned es)
    (hle : owned ≤ owned₁) : List.Forall₂ (Shows ws owned₁) rs es := by
  induction rs generalizing owned es with
  | nil =>
    cases es with
    | nil => exact .nil
    | cons => exact ho.elim
  | cons r rs ih =>
    cases es with
    | nil => exact ho.elim
    | cons e es =>
      obtain ⟨first, others, rfl, hr, -, hrs⟩ := ho
      exact .cons ⟨first, (Multiset.le_add_right _ _).trans hle, hr⟩
        (ih hrs ((Multiset.le_add_left _ _).trans hle))

theorem Shows.head (hr : Shows ws owned r e) : ws.inspection.head r = Entry.inspection.head e := by
  obtain ⟨own, -, hr⟩ := hr
  exact hr.head

theorem Shows.inner? (hr : Shows ws owned r e) :
    Option.Rel (Lookup.Agree ws.inspection Entry.inspection (Shows ws owned))
      (ws.inspection.inner? r) (Entry.inspection.inner? e) := by
  obtain ⟨own, hle, hr⟩ := hr
  cases e with
  | primitive k ts =>
    have hi : ws.inspection.inner? r = none := by
      simp [inspection, hr.2.1, Node.inside?]
    rw [hi]
    exact .none
  | dictionary k es =>
    obtain ⟨p, inner, -, rfl, rs, hnode, hes⟩ := owns_dictionary.mp hr
    have hi : ws.inspection.inner? r = some rs := by simp [inspection, hnode, Node.inside?]
    rw [hi]
    exact .some (Lookup.agree_of_forall₂ (fun _ _ => Shows.head)
      (hes.shows ((Multiset.le_cons_self _ _).trans hle)))

theorem Stacks.agree (hs : Stacks ws ds owned fs) (hle : owned ≤ owned₁) :
    List.Forall₂ (Lookup.FramesAgree ws.inspection Entry.inspection (Shows ws owned₁))
      (ds.map fun d => ⟨ws.members d, ws.isTransparent d⟩) fs := by
  induction ds generalizing owned fs with
  | nil =>
    cases fs with
    | nil => exact .nil
    | cons => exact hs.elim
  | cons d ds ih =>
    cases fs with
    | nil => exact hs.elim
    | cons f fs =>
      obtain ⟨h, inner, outer, rfl, hd, hs⟩ := hs
      refine .cons ⟨?_, ?_⟩ (ih hs ((Multiset.le_add_left _ _).trans hle))
      · obtain ⟨rs, hnode, -⟩ := hd
        simp [isTransparent, hnode, Node.inside?]
      · refine Lookup.agree_of_forall₂ (fun _ _ => Shows.head) (hd.members.shows ?_)
        exact ((Multiset.le_cons_self _ _).trans (Multiset.le_add_right _ _)).trans hle

/-- A scoped name denotes a stored entry that is the tree which it denotes in the frames. -/
theorem Stacks.scopedEntry (hs : Stacks ws (d :: ds) owned fs) (hn : owned.Nodup) (name : String) :
    Option.Rel (Shows ws owned) (ws.scopedEntry d name)
      (Lookup.scopedEntry Entry.inspection fs name) := by
  rw [Workspace.scopedEntry, frames, hs.chain hn]
  exact Lookup.scopedEntry_agree (fun _ _ => Shows.inner?) (hs.agree le_rfl) name

/-! ### Removals -/

theorem Houses.removeAll (what : List Removal) (hd : Houses ws d h p t owned es)
    (hn : (d ::ₘ owned).Nodup) : ∃ left ≤ owned,
      Houses (ws.removeAll d what) d h p t left (Removal.applyAll what es) ∧
        Turns ws (ws.removeAll d what) (d ::ₘ owned) (d ::ₘ left) := by
  induction what generalizing ws owned es with
  | nil => exact ⟨owned, le_rfl, hd, .refl hn⟩
  | cons r what ih =>
    obtain ⟨left, hle, hleft, ht⟩ := hd.filterMembers hn (!r.takes ·)
    obtain ⟨left', hle', hleft', ht'⟩ := ih hleft ht.nodup
    exact ⟨left', hle'.trans hle, hleft', ht.trans ht'⟩

/-- Removals in the innermost dictionary. -/
theorem Stacks.removeAll (what : List Removal) (hs : Stacks ws (d :: ds) owned (f :: fs))
    (hn : owned.Nodup) : ∃ left,
      Stacks (ws.removeAll d what) (d :: ds) left
          (⟨Removal.applyAll what f.entries, f.transparent⟩ :: fs) ∧
        Turns ws (ws.removeAll d what) owned left := by
  obtain ⟨h, inner, outer, rfl, hd, hs⟩ := hs
  obtain ⟨hdn, -, hdisj⟩ := Multiset.nodup_add.mp hn
  obtain ⟨left, -, hleft, ht⟩ := hd.removeAll what hdn
  exact ⟨d ::ₘ left + outer, ⟨h, left, outer, rfl, hleft, hs.turns ht hdisj⟩, ht.frame hs.lt hn⟩

end Workspace

namespace Scope

open Workspace

variable {ws : Workspace} {d : Ref} {ds : List Ref} {owned : Multiset Ref}

/-- The scope is a dictionary that is being made, or blocks for one. -/
def IsOpen : Scope → Prop
  | fresh .. => True
  | staged _ below => below.IsOpen
  | stored .. => False

theorem IsOpen.removeThrough {s : Scope} (hs : s.IsOpen) (what : List Removal) :
    (s.removeThrough what).IsOpen := by
  induction s with
  | fresh => trivial
  | staged es below ih => exact ih hs
  | stored => exact hs.elim

/-- How many dictionaries removals go through. -/
theorem through_eq {fs : List (Frame Entry)} (hs : Stacks ws (d :: ds) owned fs)
    (hn : owned.Nodup) :
    ws.through d = (d :: ds).take ((fs.takeWhile (·.transparent)).length + 1) := by
  have hmap := hs.map_eq hn
  rw [Workspace.through, hs.chain hn, ← hmap, List.takeWhile_map, List.length_map]
  rfl

/-- Removals go through the blocks to the dictionary that they are for. -/
theorem removeThrough_stacks (what : List Removal) {s : Scope} (ho : s.IsOpen)
    (hs : Stacks ws (d :: ds) owned s.frames) (hn : owned.Nodup) : ∃ left,
      Stacks ((ws.through d).foldl (fun ws d => ws.removeAll d what) ws) (d :: ds) left
          (s.removeThrough what).frames ∧
        Turns ws ((ws.through d).foldl (fun ws d => ws.removeAll d what) ws) owned left := by
  rw [through_eq hs hn]
  induction s generalizing ws d ds owned with
  | stored => exact ho.elim
  | fresh es around removed => exact hs.removeAll what hn
  | staged es below ih =>
    obtain ⟨left, hleft, ht⟩ := hs.removeAll what hn
    obtain ⟨h, inner, outer, rfl, hd, hbelow⟩ := hleft
    cases ds with
    | nil => cases below <;> first | exact hbelow.elim | exact ho.elim
    | cons d' ds =>
      obtain ⟨hdn, houter, hdisj⟩ := Multiset.nodup_add.mp ht.nodup
      obtain ⟨left', hleft', ht'⟩ := ih ho hbelow houter
      have hframe := ht'.frame hd.mem_lt (Multiset.nodup_add.mpr ⟨houter, hdn, hdisj.symm⟩)
      rw [add_comm outer, add_comm left'] at hframe
      exact ⟨d ::ₘ inner + left', ⟨h, inner, left', rfl, hd.turns ht' hdisj.symm, hleft'⟩,
        ht.trans hframe⟩

/-! ### Placing -/

/-- Placing a stored entry in the innermost dictionary does to it what placing the tree does to the
scope. -/
theorem place_stacks (mode : InputMode) {s : Scope} {r : Ref} {e : Entry} {first : Multiset Ref}
    (ho : s.IsOpen) (hs : Stacks ws (d :: ds) owned s.frames) (hr : Owns ws r first e)
    (hn : (owned + first).Nodup) :
    match s.place mode e with
    | (.ok (_, events), s') => ∃ refs ws' owned',
        exec (Workspace.place mode d r) ws = (.ok (refs, events), ws') ∧ s'.IsOpen ∧
          Stacks ws' (d :: ds) owned' s'.frames ∧ Turns ws ws' (owned + first) owned'
    | (.error f, _) => ∃ ws', exec (Workspace.place mode d r) ws = (.error f, ws') := by
  cases s with
  | stored => exact ho.elim
  | fresh es around removed | staged es around =>
    obtain ⟨h, inner, outer, rfl, hd, hs⟩ := hs
    rw [add_assoc, add_comm outer, ← add_assoc] at hn ⊢
    obtain ⟨hdn, houter, hdisj⟩ := Multiset.nodup_add.mp hn
    have hplace := place_spec mode hd hr hdn
    simp only [Scope.place]
    cases hp : e.place mode es with
    | error f =>
      rw [hp] at hplace
      exact hplace
    | ok q =>
      rw [hp] at hplace
      obtain ⟨refs, ws', owned', hx, hd', ht⟩ := hplace
      exact ⟨refs, ws', d ::ₘ owned' + outer, hx, ho, ⟨h, owned', outer, rfl, hd', hs.turns ht hdisj⟩,
        ht.frame hs.lt hn⟩

end Scope

end CaseDict
