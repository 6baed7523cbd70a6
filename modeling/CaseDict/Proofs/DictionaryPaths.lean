import CaseDict.Proofs.ProperTrees
import CaseDict.Proofs.Inward
import Mathlib.Data.List.Chain
/-! # A dictionary is found at its path

`Workspace.path` goes from a dictionary outwards and writes the keywords down; a name that begins
with `!` goes from the outermost dictionary inwards by them. In a tree the dictionaries around one
are the way to it backwards (`IsTree.chain_eq`). So both are about the same dictionaries, and the
name leads back to the dictionary if each of them can be told from what stands beside it
(`IsTree.scopedEntry_path`). -/

namespace CaseDict

namespace Workspace

variable {ws : Workspace} {root d o s x : Ref} {way : List Ref}

/-! ### The way to a dictionary -/

/-- Each is a member of the one before. -/
abbrev Inwards (ws : Workspace) (way : List Ref) : Prop :=
  way.IsChain fun o x => x ∈ ws.members o

theorem isDictionary_of_mem (hx : x ∈ ws.members o) : ws.isDictionary o := by
  cases hnode : ws.node o with
  | primitive h ts => simp [members, hnode, Node.inside?] at hx
  | dictionary h m => simp [isDictionary, hnode, Node.isDictionary, Node.inside?]

/-- All on the way are reached from its beginning. -/
theorem Inwards.reaches (hway : ws.Inwards (root :: way)) : ∀ x ∈ root :: way, ws.Reaches root x := by
  intro x hx
  have hpairwise : (root :: way).Pairwise ws.Reaches :=
    (hway.imp fun _ _ => Relation.ReflTransGen.single).pairwise
  rcases List.mem_cons.mp hx with rfl | hx
  · exact .refl
  · exact (List.pairwise_cons.mp hpairwise).1 x hx

/-- Whatever is reached is at the end of a way. -/
theorem Reaches.exists_inwards (hx : ws.Reaches root x) :
    ∃ way, ws.Inwards (root :: way) ∧ (root :: way).getLast? = some x := by
  obtain ⟨way, hway, hlast⟩ := List.exists_isChain_cons_of_relationReflTransGen hx
  refine ⟨way, hway, ?_⟩
  rw [List.getLast?_eq_some_getLast (List.cons_ne_nil _ _), hlast]

/-- The dictionaries on the way to a dictionary. -/
theorem Inwards.isDictionary (hway : ws.Inwards (root :: way))
    (hlast : (root :: way).getLast? = some d) (hd : ws.isDictionary d) :
    ∀ x ∈ root :: way, ws.isDictionary x := by
  induction way generalizing root with
  | nil =>
    obtain rfl : root = d := by simpa using hlast
    simpa using hd
  | cons x way ih =>
    obtain ⟨hx, hway⟩ := List.isChain_cons_cons.mp hway
    rw [List.getLast?_cons_cons] at hlast
    exact List.forall_mem_cons.mpr ⟨isDictionary_of_mem hx, ih hway hlast⟩

namespace IsTree

variable (ht : ws.IsTree root)
include ht

theorem parent_of_mem (ho : ws.Reaches root o) (hx : x ∈ ws.members o) (hd : ws.isDictionary x) :
    ws.parent x = some o := by
  obtain ⟨path, hpath⟩ := ho.exists_at?
  exact ht.parent_member path o hpath x hx hd

theorem solid_of_reaches (hx : ws.Reaches root x) : ws.isTransparent x = false := by
  obtain ⟨path, hpath⟩ := hx.exists_at?
  exact ht.solid path x hpath

/-- No entry is on the way to itself. -/
theorem nodup (hway : ws.Inwards (root :: way)) : (root :: way).Nodup := by
  have hin : (root :: way).Pairwise (Relation.TransGen fun o x => x ∈ ws.members o) :=
    (hway.imp fun _ _ => Relation.TransGen.single).pairwise
  refine (List.pairwise_iff_forall_sublist.mpr fun {o x} hsub => ?_)
  rintro rfl
  have ho : ws.Reaches root o := hway.reaches o (hsub.subset List.mem_cons_self)
  obtain ⟨y, hy, hyo⟩ := Relation.TransGen.head'_iff.mp
    (List.pairwise_iff_forall_sublist.mp hin hsub)
  obtain ⟨path, hpath⟩ := ho.exists_at?
  obtain ⟨k, hk⟩ := List.mem_iff_getElem?.mp hy
  obtain ⟨path', hpath'⟩ := Reaches.exists_at? hyo
  have hcycle : ws.at? o (k :: path') = some o := by
    rw [at?, hk]
    exact hpath'
  exact List.cons_ne_nil _ _ (ht.acyclic hpath hcycle)

/-- There are no more entries on a way than are stored. -/
theorem length_le (hway : ws.Inwards (root :: way)) (hd : ∀ x ∈ root :: way, ws.isDictionary x) :
    (root :: way).length ≤ ws.nodes.size := by
  have hcard : (Multiset.ofList (root :: way)).card ≤ ws.nodes.size :=
    card_le_size (fun x hx => lt_of_isDictionary (hd x (Multiset.mem_coe.mp hx)))
      (Multiset.coe_nodup.mpr (ht.nodup hway))
  simpa using hcard

end IsTree

/-- Dictionaries of which each is around the one before, and nothing is around the last. -/
theorem chainWithin_eq {steps : Nat} {around : List Ref}
    (h : (d :: around).IsChain fun x o => ws.parent x = some o)
    (hlast : ∀ x, (d :: around).getLast? = some x → ws.parent x = none)
    (hsteps : around.length ≤ steps) : ws.chainWithin steps d = d :: around := by
  induction around generalizing d steps with
  | nil =>
    have hparent : ws.parent d = none := hlast d rfl
    cases steps with
    | zero => rfl
    | succ steps => rw [chainWithin, hparent]
  | cons o around ih =>
    obtain ⟨hparent, h⟩ := List.isChain_cons_cons.mp h
    rw [List.length_cons] at hsteps
    obtain ⟨steps, rfl⟩ := Nat.exists_eq_succ_of_ne_zero (n := steps) (by omega)
    have hchain : ws.chainWithin steps o = o :: around := by
      refine ih h (fun x hx => hlast x ?_) (by omega)
      rwa [List.getLast?_cons_cons]
    rw [chainWithin, hparent]
    exact congrArg _ hchain

namespace IsTree

variable (ht : ws.IsTree root)
include ht

/-- The dictionaries around one are the way to it backwards. -/
theorem chain_eq (hway : ws.Inwards (root :: way)) (hlast : (root :: way).getLast? = some d)
    (hd : ws.isDictionary d) : ws.chain d = (root :: way).reverse := by
  have hdictionaries := hway.isDictionary hlast hd
  have hlength := ht.length_le hway hdictionaries
  -- the way backwards begins at the dictionary
  obtain ⟨around, hback⟩ : ∃ around, (root :: way).reverse = d :: around := by
    rw [← List.head?_reverse] at hlast
    exact List.head?_eq_some_iff.mp hlast
  have hparents : ((root :: way).reverse).IsChain fun x o => ws.parent x = some o := by
    rw [List.isChain_reverse]
    refine List.IsChain.imp_of_mem_imp ?_ hway
    intro o x ho hx hmem
    exact ht.parent_of_mem (hway.reaches o ho) hmem (hdictionaries x hx)
  rw [hback] at hparents ⊢
  refine chainWithin_eq hparents (fun x hx => ?_) ?_
  · rw [← hback, List.getLast?_reverse, List.head?_cons] at hx
    obtain rfl : root = x := Option.some.inj hx
    exact ht.parent_root
  · have hsame := congrArg List.length hback
    rw [List.length_reverse, List.length_cons, List.length_cons] at hsame
    rw [List.length_cons] at hlength
    omega

/-- The path of a dictionary are the keywords on the way to it. -/
theorem path_eq (hway : ws.Inwards (root :: way)) (hlast : (root :: way).getLast? = some d)
    (hd : ws.isDictionary d) :
    ws.path d = "/".intercalate (way.map fun x => (ws.head x).keyword) := by
  have hnamed : (way.reverse.filter (!ws.isTransparent ·)) = way.reverse := by
    refine List.filter_eq_self.mpr fun x hx => ?_
    have hx : x ∈ root :: way := List.mem_cons_of_mem _ (List.mem_reverse.mp hx)
    simpa using ht.solid_of_reaches (hway.reaches x hx)
  rw [Workspace.path, ht.chain_eq hway hlast hd, List.reverse_cons, List.dropLast_concat, hnamed,
    List.map_reverse, List.reverse_reverse]

/-- All dictionaries of the tree have the same outermost one. -/
theorem getLast?_frames (hs : ws.Reaches root s) (hd : ws.isDictionary s) :
    (ws.frames s).getLast? = some ⟨ws.members root, ws.isTransparent root⟩ := by
  obtain ⟨way, hway, hlast⟩ := hs.exists_inwards
  rw [frames, ht.chain_eq hway hlast hd, List.reverse_cons, List.map_append, List.map_singleton,
    List.getLast?_append_of_ne_nil _ (List.cons_ne_nil _ _), List.getLast?_singleton]

end IsTree

/-! ### Names that lead to it -/

/-- The second entry is a member of the first that can be told from what stands beside it: its plain
keyword is a component of a path, and no newer plain entry has the same. -/
structure Addressable (ws : Workspace) (o x : Ref) : Prop where
  plain : (ws.head x).isPattern = false
  isComponent : Lookup.IsComponent (ws.head x).keyword
  newest : ∃ before after, ws.members o = before ++ x :: after ∧
    ∀ y ∈ after, (ws.head y).isPattern = false → (ws.head y).keyword ≠ (ws.head x).keyword

theorem Addressable.mem (h : ws.Addressable o x) : x ∈ ws.members o := by
  obtain ⟨before, after, hmembers, -⟩ := h.newest
  rw [hmembers]
  exact List.mem_append_right _ List.mem_cons_self

/-- Patterns beside it do not count, and neither do older entries. -/
theorem Addressable.find (h : ws.Addressable o x) :
    Lookup.find ws.inspection (ws.head x).keyword (ws.members o) = some x := by
  obtain ⟨before, after, hmembers, hafter⟩ := h.newest
  have hx : (ws.head x).isNamed (ws.head x).keyword = true := by simp [Heading.isNamed, h.plain]
  have hnewer : ∀ y ∈ after, (ws.head y).isNamed (ws.head x).keyword = false := by
    intro y hy
    by_cases hplain : (ws.head y).isPattern = false
    · simp [Heading.isNamed, hafter y hy hplain]
    · simp [Heading.isNamed, hplain]
  have hnamed : Lookup.findNamed ws.inspection (ws.head x).keyword (ws.members o) = some x := by
    rw [hmembers]
    exact Entry.find?_reverse_append hx hnewer
  rw [Lookup.find, hnamed]

theorem descend_eq (hway : (o :: way).IsChain ws.Addressable)
    (hlast : (o :: way).getLast? = some d) :
    Lookup.descend ws.inspection o (way.map fun x => (ws.head x).keyword) = some d := by
  induction way generalizing o with
  | nil => simpa [Lookup.descend] using hlast
  | cons x way ih =>
    obtain ⟨hx, hway⟩ := List.isChain_cons_cons.mp hway
    rw [List.getLast?_cons_cons] at hlast
    have hinner : ws.inspection.inner? o = some (ws.members o) := by
      obtain ⟨m, hm⟩ := Option.isSome_iff_exists.mp (isDictionary_of_mem hx.mem)
      simp [inspection, members, hm]
    simp only [List.map_cons, Lookup.descend, hinner, Option.bind_eq_bind, Option.bind_some, hx.find]
    exact ih hway hlast

theorem isComponent_of_mem (hway : (o :: way).IsChain ws.Addressable) :
    ∀ x ∈ way, Lookup.IsComponent (ws.head x).keyword := by
  induction way generalizing o with
  | nil => exact List.forall_mem_nil _
  | cons x way ih =>
    obtain ⟨hx, hway⟩ := List.isChain_cons_cons.mp hway
    exact List.forall_mem_cons.mpr ⟨hx.isComponent, ih hway⟩

/-- **A dictionary is found at its path**, from every dictionary of the tree, if on the way to it
each can be told from what stands beside it and the first is not called `..`. -/
theorem IsTree.scopedEntry_path (ht : ws.IsTree root)
    (hway : (root :: x :: way).IsChain ws.Addressable) (hout : (ws.head x).keyword ≠ "..")
    (hlast : (x :: way).getLast? = some d) (hd : ws.isDictionary d) (hs : ws.Reaches root s)
    (hscope : ws.isDictionary s) : ws.scopedEntry s ("!" ++ ws.path d) = some d := by
  have hin : ws.Inwards (root :: x :: way) := hway.imp fun _ _ => Addressable.mem
  have hlast' : (root :: x :: way).getLast? = some d := by rwa [List.getLast?_cons_cons]
  obtain ⟨hx, hrest⟩ := List.isChain_cons_cons.mp hway
  have hnames : ∀ name ∈ (x :: way).map fun x => (ws.head x).keyword, Lookup.IsComponent name :=
    List.forall_mem_map.mpr (isComponent_of_mem hway)
  rw [Workspace.scopedEntry, ht.path_eq hin hlast' hd, List.map_cons,
    Lookup.scopedEntry_outermost _ (ht.getLast?_frames hs hscope) hnames hout, hx.find]
  exact descend_eq hrest hlast

end Workspace

namespace Reader

open Workspace

variable {setup : Setup} {i : Input} {e : Entry} {log : List Event}

/-- What is read is a tree in which dictionaries are found at their paths. -/
theorem scopedEntry_path_of_read (h : read setup i = (.ok e, log)) :
    ∃ root ws, InPlace.read setup i = (.ok (root, ws), log) ∧ ws.tree root = e ∧
      ∀ way x d s, (root :: x :: way).IsChain ws.Addressable → (ws.head x).keyword ≠ ".." →
        (x :: way).getLast? = some d → ws.isDictionary d → ws.Reaches root s → ws.isDictionary s →
        ws.scopedEntry s ("!" ++ ws.path d) = some d := by
  obtain ⟨root, ws, hplace, htree, his⟩ := isTree_of_read h
  refine ⟨root, ws, hplace, htree, fun way x d s hway hout hlast hd hs hscope => ?_⟩
  exact his.scopedEntry_path hway hout hlast hd hs hscope

/-- The dictionary with copies, as it is stored when it is read in place. -/
def storedRepeated : Workspace :=
  ⟨#[.dictionary ⟨"t", false, 1, 1⟩ ⟨[⟨1⟩, ⟨3⟩, ⟨5⟩], none, false⟩,
    .dictionary ⟨"a", false, 1, 1⟩ ⟨[⟨2⟩], some ⟨0⟩, false⟩,
    .dictionary ⟨"b", false, 1, 1⟩ ⟨[], some ⟨1⟩, false⟩,
    .dictionary ⟨"c", false, 1, 1⟩ ⟨[⟨4⟩], some ⟨0⟩, false⟩,
    .dictionary ⟨"b", false, 1, 1⟩ ⟨[], some ⟨3⟩, false⟩,
    .dictionary ⟨"b", false, 1, 1⟩ ⟨[], some ⟨0⟩, false⟩]⟩

/-- From the inner dictionary of one copy a name leads to that of the other. -/
theorem scopedEntry_path_of_repeated :
    InPlace.read bareSetup repeated = (.ok (⟨0⟩, storedRepeated), []) ∧
      storedRepeated.scopedEntry ⟨4⟩ ("!" ++ storedRepeated.path ⟨2⟩) = some ⟨2⟩ := by
  let b : Entry := .dictionary ⟨"b", false, 1, 1⟩ []
  have hread : read bareSetup repeated = (.ok (.dictionary ⟨"t", false, 1, 1⟩
      [.dictionary ⟨"a", false, 1, 1⟩ [b], .dictionary ⟨"c", false, 1, 1⟩ [b], b]), []) := by cbv
  have hplace : InPlace.read bareSetup repeated = (.ok (⟨0⟩, storedRepeated), []) := by cbv
  obtain ⟨root, ws, hplace', -, hfound⟩ := scopedEntry_path_of_read hread
  cases hplace.symm.trans hplace'
  have ha : storedRepeated.Addressable ⟨0⟩ ⟨1⟩ :=
    ⟨rfl, by unfold Lookup.IsComponent; decide, [], [⟨3⟩, ⟨5⟩], rfl, by decide⟩
  have hb : storedRepeated.Addressable ⟨1⟩ ⟨2⟩ :=
    ⟨rfl, by unfold Lookup.IsComponent; decide, [], [], rfl, by decide⟩
  have hscope : storedRepeated.Reaches ⟨0⟩ ⟨4⟩ := by
    have houter : (⟨3⟩ : Ref) ∈ storedRepeated.members ⟨0⟩ := by decide
    have hinner : (⟨4⟩ : Ref) ∈ storedRepeated.members ⟨3⟩ := by decide
    exact .tail (.single houter) hinner
  have hway : [⟨0⟩, ⟨1⟩, ⟨2⟩].IsChain storedRepeated.Addressable :=
    .cons_cons ha (.cons_cons hb (.singleton _))
  exact ⟨hplace, hfound [⟨2⟩] ⟨1⟩ ⟨2⟩ ⟨4⟩ hway (by decide) rfl rfl hscope rfl⟩

end Reader

end CaseDict
