import CaseDict.Proofs.Mirrored
import CaseDict.Proofs.Stored
import CaseDict.Proofs.Unfolding
/-! # What is read is a tree

A text that is read in place gives a tree: each entry is a member in one place only, every
dictionary is the parent of its members, none is transparent, and nothing is around the outermost
one. So entries that are copied, merged or brought by blocks share nothing with each other or with
what they came from. -/

namespace CaseDict

namespace Workspace

variable {ws : Workspace} {root r x : Ref} {e : Entry} {es : List Entry} {rs : List Ref}
  {owned : Multiset Ref} {around : Option Ref} {path path' : List Nat} {k : Nat}

/-- The entry at the end of a path, which says for each dictionary on it which of the members is
next. -/
def at? (ws : Workspace) (r : Ref) : List Nat → Option Ref
  | [] => some r
  | k :: path => do ws.at? (← (ws.members r)[k]?) path

/-- What can be reached from an entry is a tree of which it is the root. -/
structure IsTree (ws : Workspace) (root : Ref) : Prop where
  parent_root : ws.parent root = none
  /-- A dictionary is the parent of the dictionaries that are members of it. -/
  parent_member : ∀ path d, ws.at? root path = some d → ∀ e ∈ ws.members d,
    ws.isDictionary e → ws.parent e = some d
  solid : ∀ path d, ws.at? root path = some d → ws.isTransparent d = false
  /-- An entry is in one place. -/
  once : ∀ path path' e, ws.at? root path = some e → ws.at? root path' = some e → path = path'

theorem at?_append (ws : Workspace) (r : Ref) (path path' : List Nat) :
    ws.at? r (path ++ path') = (ws.at? r path).bind (ws.at? · path') := by
  induction path generalizing r with
  | nil => rfl
  | cons k path ih =>
    simp only [List.cons_append, at?, Option.bind_eq_bind, Option.bind_assoc]
    exact congrArg _ (funext fun r' => ih r')

/-- What is reached is at the end of a path. -/
theorem Reaches.exists_at? (hx : ws.Reaches root x) : ∃ path, ws.at? root path = some x := by
  induction hx with
  | refl => exact ⟨[], rfl⟩
  | @tail o x _ hmem ih =>
    obtain ⟨path, hpath⟩ := ih
    obtain ⟨k, hk⟩ := List.mem_iff_getElem?.mp hmem
    refine ⟨path ++ [k], ?_⟩
    rw [at?_append, hpath]
    simp [at?, hk]

/-- No entry is in itself. -/
theorem IsTree.acyclic (h : ws.IsTree root) (hr : ws.at? root path = some r)
    (hx : ws.at? r path' = some r) : path' = [] := by
  have happend : ws.at? root (path ++ path') = some r := by rw [at?_append, hr]; exact hx
  simpa using h.once path (path ++ path') r hr happend

/-! ### What is owned is a tree -/

/-- One of the entries, and the others apart from it. -/
theorem OwnsAll.getElem? (ho : OwnsAll ws around rs owned es) (hr : rs[k]? = some r) :
    ∃ own others e, owned = own + others ∧ Owns ws r own e ∧
      (ws.isDictionary r → ∀ d ∈ around, ws.parent r = some d) ∧
      ∀ l r', l ≠ k → rs[l]? = some r' → ∃ own' ≤ others, ∃ e', Owns ws r' own' e' := by
  induction rs generalizing owned es k r with
  | nil => simp at hr
  | cons y rs ih =>
    cases es with
    | nil => exact ho.elim
    | cons e es =>
      obtain ⟨first, rest, rfl, hy, hp, hrs⟩ := ho
      cases k with
      | zero =>
        obtain rfl : y = r := by simpa using hr
        refine ⟨first, rest, e, rfl, hy, hp, fun l r' hl hr' => ?_⟩
        obtain ⟨l, rfl⟩ := Nat.exists_eq_succ_of_ne_zero hl
        obtain ⟨own, others, e', rfl, hown, -⟩ := ih hrs (by simpa using hr')
        exact ⟨own, Multiset.le_add_right _ _, e', hown⟩
      | succ k =>
        obtain ⟨own, others, e', rfl, hown, hp', hrest⟩ := ih hrs (by simpa using hr)
        refine ⟨own, first + others, e', ?_, hown, hp', fun l r' hl hr' => ?_⟩
        · rw [← add_assoc, ← add_assoc, add_comm first]
        · cases l with
          | zero =>
            obtain rfl : y = r' := by simpa using hr'
            exact ⟨first, Multiset.le_add_right _ _, e, hy⟩
          | succ l =>
            obtain ⟨own', hle, e'', hown'⟩ := hrest l r' (by simpa using hl) (by simpa using hr')
            exact ⟨own', hle.trans (Multiset.le_add_left _ _), e'', hown'⟩

/-- An entry and what is in it are owned apart. -/
theorem Owns.members (ho : Owns ws r owned e) : ∃ inner es', owned = r ::ₘ inner ∧
    OwnsAll ws (some r) (ws.members r) inner es' := by
  cases e with
  | primitive h ts =>
    obtain ⟨-, hnode, -, rfl⟩ := ho
    have hm : ws.members r = [] := by simp [Workspace.members, hnode, Node.inside?]
    rw [hm]
    exact ⟨0, [], rfl, rfl⟩
  | dictionary h es =>
    obtain ⟨p, inner, -, rfl, hd⟩ := owns_dictionary.mp ho
    exact ⟨inner, es, rfl, hd.members⟩

/-- What is at the end of a path is owned. -/
theorem Owns.at? (ho : Owns ws r owned e) (hx : ws.at? r path = some x) :
    ∃ own ≤ owned, ∃ e', Owns ws x own e' := by
  induction path generalizing r owned e with
  | nil =>
    obtain rfl := Option.some.inj hx
    exact ⟨owned, le_rfl, e, ho⟩
  | cons k path ih =>
    obtain ⟨r', hr', hx⟩ := Option.bind_eq_some_iff.mp hx
    obtain ⟨inner, es, rfl, hes⟩ := ho.members
    obtain ⟨own, others, e', rfl, hown, -⟩ := hes.getElem? hr'
    obtain ⟨own', hle, e'', hown'⟩ := ih hown hx
    refine ⟨own', hle.trans ?_, e'', hown'⟩
    exact (Multiset.le_add_right _ _).trans (Multiset.le_cons_self _ _)

theorem Owns.of_reaches (ho : Owns ws r owned e) (hx : ws.Reaches r x) :
    ∃ own ≤ owned, ∃ e', Owns ws x own e' := by
  obtain ⟨path, hpath⟩ := hx.exists_at?
  exact ho.at? hpath

/-- A dictionary is the parent of the dictionaries that are members of it. -/
theorem Owns.parent_of_mem (ho : Owns ws r owned e) (hx : x ∈ ws.members r)
    (hd : ws.isDictionary x) : ws.parent x = some r := by
  obtain ⟨inner, es, -, hes⟩ := ho.members
  obtain ⟨k, hk⟩ := List.mem_iff_getElem?.mp hx
  obtain ⟨-, -, -, -, -, hparent, -⟩ := hes.getElem? hk
  exact hparent hd r rfl

/-- What is in an entry is not the entry itself. -/
theorem Owns.at?_ne (ho : Owns ws r owned e) (hn : owned.Nodup) (k : Nat) (path : List Nat) :
    ws.at? r (k :: path) ≠ some r := by
  intro hx
  obtain ⟨r', hr', hx⟩ := Option.bind_eq_some_iff.mp hx
  obtain ⟨inner, es, rfl, hes⟩ := ho.members
  obtain ⟨own, others, e', rfl, hown, -⟩ := hes.getElem? hr'
  obtain ⟨own', hle, e'', hown'⟩ := hown.at? hx
  refine (Multiset.nodup_cons.mp hn).1 (Multiset.mem_add.mpr (.inl ?_))
  exact Multiset.mem_of_le hle hown'.mem

/-- What is owned is in one place. -/
theorem Owns.once (ho : Owns ws r owned e) (hn : owned.Nodup) (hx : ws.at? r path = some x)
    (hx' : ws.at? r path' = some x) : path = path' := by
  induction path generalizing r owned e path' with
  | nil =>
    obtain rfl := Option.some.inj hx
    cases path' with
    | nil => rfl
    | cons k path' => exact absurd hx' (ho.at?_ne hn k path')
  | cons k path ih =>
    cases path' with
    | nil =>
      obtain rfl := Option.some.inj hx'
      exact absurd hx (ho.at?_ne hn k path)
    | cons l path' =>
      obtain ⟨y, hy, hyx⟩ := Option.bind_eq_some_iff.mp hx
      obtain ⟨z, hz, hzx⟩ := Option.bind_eq_some_iff.mp hx'
      obtain ⟨inner, es, rfl, hes⟩ := ho.members
      obtain ⟨own, others, e', rfl, hown, -, hrest⟩ := hes.getElem? hy
      obtain ⟨hown', -, hdisj⟩ := Multiset.nodup_add.mp (Multiset.nodup_cons.mp hn).2
      by_cases hkl : l = k
      · subst hkl
        obtain rfl : y = z := Option.some.inj (hy.symm.trans hz)
        exact congrArg _ (ih hown hown' hyx hzx)
      · -- the paths part, so what is at the end of one is apart from what is at the end of the other
        obtain ⟨own₂, hle₂, e₂, hown₂⟩ := hrest l z hkl hz
        obtain ⟨own₃, hle₃, e₃, hown₃⟩ := hown₂.at? hzx
        obtain ⟨own₁, hle₁, e₁, hown₁⟩ := hown.at? hyx
        exact absurd (Multiset.mem_of_le (hle₃.trans hle₂) hown₃.mem)
          (Multiset.disjoint_left.mp hdisj (Multiset.mem_of_le hle₁ hown₁.mem))

/-- A stored entry with nothing around it is a tree. -/
theorem Owns.isTree (ho : Owns ws root owned e) (hn : owned.Nodup) (hp : ws.parent root = none) :
    ws.IsTree root where
  parent_root := hp
  parent_member path d hd r hr hdict := by
    obtain ⟨own, -, e', hown⟩ := ho.at? hd
    exact hown.parent_of_mem hr hdict
  solid path d hd := by
    obtain ⟨own, -, e', hown⟩ := ho.at? hd
    cases e' with
    | primitive h ts => simp [isTransparent, hown.2.1, Node.inside?]
    | dictionary h es =>
      obtain ⟨p, inner, -, -, rs, hnode, -⟩ := owns_dictionary.mp hown
      simp [isTransparent, hnode, Node.inside?]
  once path path' x hx hx' := ho.once hn hx hx'

end Workspace

namespace Reader

open Statement Workspace

variable {setup : Setup} {i : Input}

theorem pictures_start (setup : Setup) (i : Input) :
    Pictures [⟨0⟩] [] [] (start setup) (InPlace.start setup i) := by
  refine ⟨rfl, rfl, trivial, ⟨[], rfl⟩, {⟨0⟩}, 0, ⟨_, 0, 0, rfl, ⟨[], rfl, rfl⟩, rfl⟩, rfl, ?_⟩
  rw [add_zero]
  exact Multiset.nodup_singleton _

theorem read_eq_exec (setup : Setup) (i : Input) : read setup i =
    ((exec (entries setup 0 0 none [] i) (start setup)).1.map fun p =>
      .dictionary ⟨i.name, false, 1, p.2.input.line⟩
        (exec (entries setup 0 0 none [] i) (start setup)).2.scope.entries,
      (exec (entries setup 0 0 none [] i) (start setup)).2.log) := rfl

theorem inPlace_read_eq (setup : Setup) (i : Input) : InPlace.read setup i =
    ((exec (InPlace.entries setup i) (InPlace.start setup i)).1.map fun p =>
      (⟨0⟩, (exec (InPlace.entries setup i) (InPlace.start setup i)).2.workspace.update ⟨0⟩
        (·.withHead ⟨i.name, false, 1, p.2.input.line⟩)),
      (exec (InPlace.entries setup i) (InPlace.start setup i)).2.log) := rfl

/-- What was read is what is stored. -/
theorem isTree_of_pictures {es : List Entry} {around : List (Frame Entry)} {s' : Site}
    {removed : List Removal} {mode : InputMode} {log : List Event} {h : Heading}
    (hp : Pictures [⟨0⟩] [] [] ⟨.fresh es around removed, mode, log⟩ s') (hh : h.failure? = none) :
    (s'.workspace.update ⟨0⟩ (·.withHead h)).tree ⟨0⟩ = .dictionary h es ∧
      (s'.workspace.update ⟨0⟩ (·.withHead h)).IsTree ⟨0⟩ := by
  obtain ⟨owned, loose, hs, hl, hn⟩ := hp.stored
  obtain ⟨k, inner, outer, rfl, hd, -⟩ := hs
  have hn : (⟨0⟩ ::ₘ inner : Multiset Ref).Nodup :=
    (Multiset.nodup_add.mp (Multiset.nodup_add.mp hn).1).1
  have hd' := hd.withHead hn h
  have ho : Owns (s'.workspace.update ⟨0⟩ (·.withHead h)) ⟨0⟩ (⟨0⟩ ::ₘ inner) (.dictionary h es) :=
    owns_dictionary.mpr ⟨none, inner, hh, rfl, hd'⟩
  refine ⟨ho.tree hn, ho.isTree hn ?_⟩
  obtain ⟨rs, hnode, -⟩ := hd'
  rw [Workspace.parent, hnode]
  rfl

/-- A text is read in place as it is read, and what is stored is a tree. -/
theorem read_inPlace (setup : Setup) (i : Input) :
    match InPlace.read setup i with
    | (.ok (root, ws), log) => read setup i = (.ok (ws.tree root), log) ∧ ws.IsTree root
    | (.error f, log) => read setup i = (.error f, log) := by
  have hfill (size : Nat) : FillingBelow setup (setup.settings.budget 0)
      (runDirective setup (setup.settings.budget 0)) size := fillingBelow (.runDirective _) size
  have hfills : (start setup).scope.Fills
      (exec (entries setup 0 0 none [] i) (start setup)).2.scope :=
    hfill _ i (Nat.lt_succ_self _) 0 none [] _ trivial
  have hmeets : Meets (fun a b t t' => ∃ es' rs', Alone a b es' rs' ∧ Pictures [⟨0⟩] es' rs' t t')
      (exec (entries setup 0 0 none [] i) (start setup))
      (exec (InPlace.entries setup i) (InPlace.start setup i)) :=
    mirroredBelow hfill (.runDirective _) _ i (Nat.lt_succ_self _) _ 0 none [] _ _
      (pictures_start setup i)
  rw [read_eq_exec, inPlace_read_eq]
  generalize exec (entries setup 0 0 none [] i) (start setup) = x,
    exec (InPlace.entries setup i) (InPlace.start setup i) = x' at hfills hmeets
  cases hmeets with
  | @error f s s' hlog => exact Prod.ext rfl hlog.symm
  | @ok p q s s' hpost =>
    obtain ⟨_, _, ⟨rfl, rfl, rfl⟩, hp⟩ := hpost
    obtain ⟨scope, mode, log⟩ := s
    cases hfills with
    | fresh =>
      obtain ⟨htree, his⟩ := isTree_of_pictures hp (h := ⟨i.name, false, 1, p.2.input.line⟩) rfl
      exact ⟨Prod.ext (congrArg Except.ok htree.symm) hp.log.symm, his⟩

/-- What is read is a tree of entries that are apart. -/
theorem isTree_of_read {e : Entry} {log : List Event} (h : read setup i = (.ok e, log)) :
    ∃ root ws, InPlace.read setup i = (.ok (root, ws), log) ∧ ws.tree root = e ∧ ws.IsTree root := by
  have hplace := read_inPlace setup i
  rcases hx : InPlace.read setup i with ⟨_ | ⟨root, ws⟩, log'⟩
  · rw [hx] at hplace
    cases h.symm.trans hplace
  · rw [hx] at hplace
    obtain ⟨hread, htree⟩ := hplace
    cases h.symm.trans hread
    exact ⟨root, ws, rfl, rfl, htree⟩

/-- A dictionary, a copy of it and copies of its entries. -/
def repeated : Input := .ofTokens "t" [⟨.word "a", 1⟩, ⟨.opener .brace, 1⟩, ⟨.word "b", 1⟩,
  ⟨.opener .brace, 1⟩, ⟨.closer .brace, 1⟩, ⟨.closer .brace, 1⟩, ⟨.word "c", 1⟩,
  ⟨.reference "a", 1⟩, ⟨.terminator, 1⟩, ⟨.reference "a", 1⟩, ⟨.terminator, 1⟩]

theorem isTree_of_repeated : ∃ e log, read bareSetup repeated = (.ok e, log) ∧
    ∃ root ws, InPlace.read bareSetup repeated = (.ok (root, ws), log) ∧ ws.tree root = e ∧
      ws.IsTree root := by
  let b : Entry := .dictionary ⟨"b", false, 1, 1⟩ []
  have hread : read bareSetup repeated = (.ok (.dictionary ⟨"t", false, 1, 1⟩
      [.dictionary ⟨"a", false, 1, 1⟩ [b], .dictionary ⟨"c", false, 1, 1⟩ [b], b]), []) := by cbv
  exact ⟨_, _, hread, isTree_of_read hread⟩

end Reader

end CaseDict
