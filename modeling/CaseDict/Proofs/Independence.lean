import CaseDict.Proofs.Combining
import CaseDict.Proofs.ProperTrees
import CaseDict.Proofs.Unfolding
/-! # A copy is independent

A copy of a dictionary has the same entries in new places, so it has nothing in common with the
dictionary (`Workspace.Apart`). What is apart from a tree is a region: an operation on it leaves the
tree as it was, and what was apart from the tree stays so (`Operation.perform_apart`). So no
operations on one of the two show in the other, as long as nothing is inserted that has entries of
the other in it (`Workspace.clone_independent`). -/

/-! ## Changes inside a region of a workspace

A region holds with a dictionary all its members, and all places where nothing is stored yet. A
change of entries in a region stays in it: the entries outside are as they were, and the region is
one afterwards (`Workspace.Keeps`). This holds whatever the entries are, for each change by itself
and so for merging, which makes many of them (`Region.merge`). -/

namespace CaseDict

namespace Workspace

variable {α β : Type} {ws ws' ws'' : Workspace} {d r x : Ref} {region : Ref → Prop}

/-- The entries are closed under members, and so is what will be stored. -/
structure Region (ws : Workspace) (region : Ref → Prop) : Prop where
  members : ∀ d, region d → ∀ e ∈ ws.members d, region e
  new : ∀ r : Ref, ws.nodes.size ≤ r.index → region r

/-- A change in a region, which stays one. -/
structure Keeps (region : Ref → Prop) (ws ws' : Workspace) : Prop where
  size_le : ws.nodes.size ≤ ws'.nodes.size
  node_eq : ∀ x, ¬region x → ws'.node x = ws.node x
  closed : ws'.Region region

theorem Region.keeps (h : ws.Region region) : Keeps region ws ws :=
  ⟨Nat.le_refl _, fun _ _ => rfl, h⟩

theorem Keeps.trans (h : Keeps region ws ws') (h' : Keeps region ws' ws'') :
    Keeps region ws ws'' :=
  ⟨h.size_le.trans h'.size_le, fun x hx => (h'.node_eq x hx).trans (h.node_eq x hx), h'.closed⟩

theorem Region.reaches (h : ws.Region region) (hr : region r) (hx : ws.Reaches r x) : region x := by
  induction hx with
  | refl => exact hr
  | tail _ hmem ih => exact h.members _ ih _ hmem

/-! ### One entry -/

namespace Region

/-- An entry of the region may change as long as its members are in the region. -/
theorem update (h : ws.Region region) (hr : region r) {f : Node → Node}
    (hf : ∀ m ∈ (f (ws.node r)).inside?, ∀ e ∈ m.members, region e) :
    Keeps region ws (ws.update r f) := by
  refine ⟨(size_update f).ge, fun x hx => node_update_of_ne f ?_, fun x hx e he => ?_, ?_⟩
  · rintro rfl
    exact hx hr
  · rcases @node_update_cases ws r x f with hnode | ⟨rfl, hnode⟩
    · exact h.members x hx e (by rwa [Workspace.members, hnode] at he)
    · rw [Workspace.members, hnode] at he
      cases hm : (f (ws.node x)).inside? with
      | none => simp [hm] at he
      | some m => exact hf m hm e (by simpa [hm] using he)
  · rw [size_update]
    exact h.new

/-- An entry of the region gets another heading. -/
theorem withHead (h : ws.Region region) (hr : region r) (head : Node → Heading) :
    Keeps region ws (ws.update r fun n => n.withHead (head n)) := by
  refine h.update hr fun m hm e he => h.members r hr e ?_
  rw [Node.inside?_withHead] at hm
  rw [Workspace.members, hm]
  exact he

/-- A dictionary of the region gets other members, all of the region. -/
theorem mapInside (h : ws.Region region) (hr : region r) {f : Membership → Membership}
    (hf : ∀ m, (∀ e ∈ m.members, region e) → ∀ e ∈ (f m).members, region e) :
    Keeps region ws (ws.update r (·.mapInside f)) := by
  refine h.update hr fun m hm e he => ?_
  cases hnode : ws.node r with
  | primitive k ts => simp [hnode, Node.mapInside, Node.inside?] at hm
  | dictionary k m₀ =>
    have hmembers : ∀ e ∈ m₀.members, region e := by
      intro e he
      refine h.members r hr e ?_
      rwa [Workspace.members, hnode]
    obtain rfl : f m₀ = m := by simpa [hnode, Node.mapInside, Node.inside?] using hm
    exact hf m₀ hmembers e he

theorem alloc (h : ws.Region region) {n : Node}
    (hn : ∀ m ∈ n.inside?, ∀ e ∈ m.members, region e) : Keeps region ws (ws.alloc n).2 := by
  refine ⟨(Extends.alloc n).size_le, fun x hx => ?_, fun x hx e he => ?_, fun x hx => ?_⟩
  · refine (Extends.alloc n).node_eq x (Nat.lt_of_not_le fun hle => hx (h.new x hle))
  · rw [Workspace.members, node_alloc] at he
    split at he
    · cases hm : n.inside? with
      | none => simp [hm] at he
      | some m => exact hn m hm e (by simpa [hm] using he)
    · exact h.members x hx e he
  · rw [size_alloc] at hx
    exact h.new x (Nat.le_of_succ_le hx)

theorem append (h : ws.Region region) (hd : region d) (hr : region r) :
    Keeps region ws (ws.append d r) :=
  h.mapInside hd fun _ hm => List.forall_mem_append.mpr ⟨hm, List.forall_mem_singleton.mpr hr⟩

theorem insert (h : ws.Region region) (hd : region d) (hr : region r) :
    Keeps region ws (ws.insert d r) := by
  have hparent : Keeps region ws (ws.update r (·.mapInside fun m => { m with parent := some d })) :=
    h.mapInside hr fun _ hm => hm
  exact hparent.trans (hparent.closed.append hd hr)

theorem filterMembers (h : ws.Region region) (hd : region d) (keep : String → Bool) :
    Keeps region ws (ws.filterMembers d keep) :=
  h.mapInside hd fun _ hm e he => hm e (List.mem_filter.mp he).1

theorem rename (h : ws.Region region) (hr : region r) (keyword : String) :
    Keeps region ws (ws.rename r keyword).2 := h.withHead hr fun _ => _

theorem mergeLines (h : ws.Region region) (hd : region d) (other : Ref) :
    Keeps region ws (ws.mergeLines d other) := h.withHead hd fun _ => _

/-! ### Copies -/

/-- A tree is stored in new places, which are in the region. -/
theorem fst_plant (h : ws.Region region) (p : Option Ref) (e : Entry) :
    region (ws.plant p e).1 := by
  rw [(plant_spec e ws p).1]
  exact h.new _ (Nat.le_refl _)

end Region

mutual

theorem Region.plant : ∀ (e : Entry) {ws : Workspace} (p : Option Ref), ws.Region region →
    Keeps region ws (ws.plant p e).2
  | .primitive .., _, _, h => h.alloc fun _ hm => nomatch hm
  | .dictionary k es, ws, p, h => by
    have halloc : Keeps region ws (ws.alloc (.dictionary k { parent := p })).2 := by
      refine h.alloc fun m hm e he => ?_
      obtain rfl := Option.some.inj hm
      contradiction
    exact halloc.trans (Region.plantAll es (h.new _ (Nat.le_refl _)) halloc.closed)

theorem Region.plantAll : ∀ (es : List Entry) {ws : Workspace} {d : Ref}, region d →
    ws.Region region → Keeps region ws (ws.plantAll d es)
  | [], _, _, _, h => h.keeps
  | e :: es, ws, d, hd, h => by
    have hplant := Region.plant e (some d) h
    have happend := hplant.closed.append hd (h.fst_plant (some d) e)
    exact (hplant.trans happend).trans (Region.plantAll es hd happend.closed)

end

/-- A copy is a new entry with the tree of the one that is copied, which must be well formed. -/
theorem clone_eq_ok {keyword : Option String} {copy : Ref} :
    ws.clone r keyword = .ok (copy, ws') ↔ ∃ e : Entry,
      e = (ws.tree r).withHead
        { (ws.tree r).head with keyword := keyword.getD (ws.tree r).keyword } ∧
      e.Checked ∧ ws.plant (ws.parent r) e = (copy, ws') := by
  have hclone : ws.clone r keyword = ((ws.tree r).withHead
      { (ws.tree r).head with keyword := keyword.getD (ws.tree r).keyword }).copy.bind
      fun e => .ok (ws.plant (ws.parent r) e) := rfl
  rw [hclone]
  generalize (ws.tree r).withHead _ = e
  constructor
  · intro hx
    cases hcopy : e.copy with
    | error f =>
      rw [hcopy] at hx
      contradiction
    | ok e' =>
      obtain ⟨hchecked, rfl⟩ := Entry.copy_eq_ok.mp hcopy
      rw [hcopy] at hx
      exact ⟨_, rfl, hchecked, Except.ok.inj hx⟩
  · rintro ⟨_, rfl, hchecked, hplant⟩
    rw [Entry.copy_eq_ok.mpr ⟨hchecked, rfl⟩]
    exact congrArg Except.ok hplant

/-- A copy is stored in the region, wherever the entry is that is copied. -/
theorem Region.clone (h : ws.Region region) {keyword : Option String} {copy : Ref}
    (hx : ws.clone r keyword = .ok (copy, ws')) : region copy ∧ Keeps region ws ws' := by
  obtain ⟨e, -, -, hplant⟩ := clone_eq_ok.mp hx
  have hcopy := h.fst_plant (ws.parent r) e
  have hkeeps := Region.plant e (ws.parent r) h
  rw [hplant] at hcopy hkeeps
  exact ⟨hcopy, hkeeps⟩

/-! ### Merging -/

/-- The change stays in the region, whether it fails or not. -/
def Within (region : Ref → Prop) (m : Change α) : Prop :=
  ∀ ws : Workspace, ws.Region region → Keeps region ws (exec m ws).2

namespace Within

theorem pure (a : α) : Within region (Pure.pure a : Change α) := fun _ h => h.keeps

theorem modify {f : Workspace → Workspace}
    (hf : ∀ ws : Workspace, ws.Region region → Keeps region ws (f ws)) :
    Within region (modify f : Change PUnit) := hf

theorem bind {m : Change α} {k : α → Change β} (hm : Within region m)
    (hk : ∀ a, Within region (k a)) : Within region (m >>= k) := by
  intro ws h
  have hkeeps := hm ws h
  rw [exec_bind]
  rcases hx : exec m ws with ⟨f | a, ws'⟩
  · rwa [hx] at hkeeps
  · rw [hx] at hkeeps
    exact hkeeps.trans (hk a ws' hkeeps.closed)

/-- What follows may rely on what is seen of the workspace. -/
theorem get_bind {k : Workspace → Change α} (hk : ∀ ws : Workspace, ws.Region region →
    Keeps region ws (exec (k ws) ws).2) : Within region (get >>= k) := hk

theorem forM {l : List Ref} {f : Ref → Change PUnit} (hf : ∀ r, Within region (f r)) :
    Within region (l.forM f) := by
  induction l with
  | nil => exact .pure _
  | cons r l ih => exact .bind (hf r) fun _ => ih

variable (hd : region d)
include hd

theorem replace (e : Ref) : Within region (mergeWithin.replace d e) := by
  refine .get_bind fun ws h => ?_
  have hfilter := h.filterMembers hd (· != (ws.head e).keyword)
  rw [exec_bind, exec_set]
  dsimp only
  rw [exec_bind, exec_lift]
  rcases hclone : (ws.filterMembers d (· != (ws.head e).keyword)).clone e with f | ⟨copy, ws'⟩
  · exact hfilter
  · obtain ⟨hcopy, hkeeps⟩ := hfilter.closed.clone hclone
    exact (hfilter.trans hkeeps).trans (hkeeps.closed.insert hd hcopy)

theorem mergeWithin (depth : Nat) (other : Ref) : Within region (mergeWithin depth d other) := by
  induction depth generalizing d other with
  | zero => exact .pure _
  | succ depth ih =>
    rw [mergeWithin_succ]
    refine .get_bind fun ws h => ?_
    refine Within.bind (.forM fun e => ?_) (fun _ => .modify fun ws h => h.mergeLines hd other) ws h
    refine .get_bind fun ws h => ?_
    split
    · next old hold =>
      have hmem : old ∈ ws.members d := List.mem_reverse.mp (List.mem_of_find?_eq_some hold)
      split
      · exact ih (h.members d hd old hmem) e ws h
      · exact replace hd e ws h
    · exact replace hd e ws h

end Within

/-- A dictionary of the region is merged with any other, which may fail. -/
theorem Region.merge (h : ws.Region region) (hd : region d) (other : Ref) :
    Keeps region ws (exec (Workspace.merge d other) ws).2 :=
  Within.get_bind (fun ws h => Within.mergeWithin hd _ other ws h) ws h

end Workspace

end CaseDict

namespace CaseDict

namespace Workspace

open Entry

variable {ws ws' : Workspace} {own other c d r s x y : Ref} {e : Entry} {es : List Entry}
  {h : Heading} {k : String}

/-! ### Entries that are apart -/

/-- The entries have nothing in common. -/
def Apart (ws : Workspace) (r s : Ref) : Prop := ∀ x, ws.Reaches r x → ¬ws.Reaches s x

theorem Apart.symm (ha : ws.Apart r s) : ws.Apart s r := fun x hx hr => ha x hr hx

theorem Apart.not_reaches (ha : ws.Apart x s) : ¬ws.Reaches s x := ha x .refl

/-- What is in an entry is apart from what the entry is apart from. -/
theorem Apart.of_reaches (ha : ws.Apart r s) (hx : ws.Reaches r x) : ws.Apart x s :=
  fun y hy => ha y (hx.trans hy)

/-- Where nothing is stored, there are no members. -/
theorem Reaches.eq_of_size_le (hr : ws.nodes.size ≤ r.index) (hx : ws.Reaches r x) : x = r := by
  induction hx with
  | refl => rfl
  | tail _ hmem ih =>
    subst ih
    rw [members, node_of_size_le hr] at hmem
    contradiction

/-- What is apart from a tree is a region. -/
theorem Unfolds.region (hs : ws.Unfolds other e) : ws.Region (ws.Apart · other) where
  members _ hd _ hx := hd.of_reaches (.single hx)
  new r hr _ hx hother := by
    obtain rfl := hx.eq_of_size_le hr
    obtain ⟨e', he'⟩ := hs.of_reaches hother
    exact absurd he'.lt (Nat.not_lt.mpr hr)

/-- What is in a tree does not change with what is apart from it. -/
theorem Keeps.reaches (hk : Keeps (ws.Apart · other) ws ws') (hx : ws'.Reaches other x) :
    ws.Reaches other x :=
  hx.congr fun y hy => hk.node_eq y fun ha => ha.not_reaches hy

/-- A change apart from a tree leaves the tree and what is apart from it. -/
theorem Keeps.unfolds (hk : Keeps (ws.Apart · other) ws ws') (hs : ws.Unfolds other e) :
    ws'.Unfolds other e :=
  hs.congr hk.size_le fun x hx => hk.node_eq x fun ha => ha.not_reaches hx

theorem Keeps.apart (hk : Keeps (ws.Apart · other) ws ws') (ha : ws.Apart own other) :
    ws'.Apart own other := fun _ hx hother =>
  (hk.closed.reaches ha hx).not_reaches (hk.reaches hother)

/-! ### Operations -/

/-- A change as a caller makes it. -/
inductive Operation where
  /-- Stores a new entry. -/
  | make (e : Entry)
  /-- Inserts an entry in a dictionary, under another keyword if one is given. -/
  | insert (d e : Ref) (keyword : Option String)
  /-- Removes the members of a dictionary of a keyword, or those that a pattern selects. -/
  | remove (d : Ref) (keyword : String) (isPattern : Bool)
  /-- Merges a dictionary into another. -/
  | merge (d other : Ref)
  /-- Gives an entry another keyword. -/
  | rename (r : Ref) (keyword : String)

namespace Operation

/-- The workspace after an operation. What it did before it failed stays done. -/
def perform (ws : Workspace) : Operation → Workspace
  | make e => (ws.plant none e).2
  | insert d e none => ws.insert d e
  | insert d e (some keyword) =>
    match ws.rename e keyword with
    | (.ok _, ws) => ws.insert d e
    | (.error _, ws) => ws
  | remove d keyword isPattern =>
    match Removal.read keyword isPattern with
    | .ok what => ws.remove d what
    | .error _ => ws
  | merge d other => (exec (Workspace.merge d other) ws).2
  | rename r keyword => (ws.rename r keyword).2

/-- The workspace after operations one after the other. -/
def performAll (ws : Workspace) (ops : List Operation) : Workspace := ops.foldl perform ws

/-- The operation is on entries in `own`, and it inserts nothing that has entries of `other` in
it. -/
def On (own other : Ref) (ws : Workspace) : Operation → Prop
  | make _ => True
  | insert d e _ => ws.Reaches own d ∧ ws.Apart e other
  | remove d _ _ | merge d _ | rename d _ => ws.Reaches own d

/-- Each operation is, when its turn comes. -/
def AllOn (own other : Ref) : Workspace → List Operation → Prop
  | _, [] => True
  | ws, op :: ops => op.On own other ws ∧ AllOn own other (op.perform ws) ops

variable {op : Operation} {ops : List Operation}

/-- An operation on what is apart from a tree changes only that. -/
theorem perform_keeps (hs : ws.Unfolds other e) (ha : ws.Apart own other)
    (hop : op.On own other ws) : Keeps (ws.Apart · other) ws (op.perform ws) := by
  have hregion : ws.Region (ws.Apart · other) := hs.region
  cases op with
  | make e => exact Region.plant e none hregion
  | insert d x keyword =>
    obtain ⟨hd, hx⟩ := hop
    have hd : ws.Apart d other := ha.of_reaches hd
    cases keyword with
    | none => exact hregion.insert hd hx
    | some keyword =>
      have hrename := hregion.rename hx keyword
      rcases hr : ws.rename x keyword with ⟨f | _, ws'⟩
      · rw [hr] at hrename
        simp only [perform, hr]
        exact hrename
      · rw [hr] at hrename
        simp only [perform, hr]
        exact hrename.trans (hrename.closed.insert hd hx)
  | remove d keyword isPattern =>
    cases hread : Removal.read keyword isPattern with
    | error f =>
      simp only [perform, hread]
      exact hregion.keeps
    | ok what =>
      simp only [perform, hread]
      exact hregion.filterMembers (ha.of_reaches hop) _
  | merge d source => exact hregion.merge (ha.of_reaches hop) source
  | rename r keyword => exact hregion.rename (ha.of_reaches hop) keyword

/-- Operations on what is apart from a tree leave the tree as it was. -/
theorem performAll_unfolds (hs : ws.Unfolds other e) (ha : ws.Apart own other)
    (hops : AllOn own other ws ops) : (performAll ws ops).Unfolds other e := by
  induction ops generalizing ws with
  | nil => exact hs
  | cons op ops ih =>
    obtain ⟨hop, hops⟩ := hops
    have hkeeps := perform_keeps hs ha hop
    exact ih (hkeeps.unfolds hs) (hkeeps.apart ha) hops

end Operation

/-! ### Copies -/

open Operation

/-- **A copy is deep and independent.** A dictionary tree, the patterns in which are well formed, is
copied under each keyword that is well formed. The copy has the same entries; each dictionary of it
is the parent of those in it; it has nothing in common with the tree; and operations on one of the
two leave the other as it was. -/
theorem clone_independent (hd : ws.Unfolds d (.dictionary h es)) (hes : AllChecked es)
    (hk : { h with keyword := k }.failure? = none) :
    ∃ c ws', ws.clone d (some k) = .ok (c, ws') ∧
      ws'.tree c = .dictionary { h with keyword := k } es ∧ ws'.tree d = .dictionary h es ∧
      (∀ x y, ws'.Reaches c x → y ∈ ws'.members x → ws'.isDictionary y → ws'.parent y = some x) ∧
      ws'.Apart c d ∧
      (∀ ops, AllOn c d ws' ops → (performAll ws' ops).tree d = .dictionary h es) ∧
      ∀ ops, AllOn d c ws' ops →
        (performAll ws' ops).tree c = .dictionary { h with keyword := k } es := by
  have hchecked : (dictionary { h with keyword := k } es).Checked :=
    checked_dictionary.mpr ⟨hk, hes⟩
  obtain ⟨owned, howns, hturns, -⟩ := plant_owns hchecked ws (ws.parent d)
  rcases hplant : ws.plant (ws.parent d) (dictionary { h with keyword := k } es) with ⟨c, ws'⟩
  rw [hplant] at howns hturns
  have hclone : ws.clone d (some k) = .ok (c, ws') := by
    refine clone_eq_ok.mpr ⟨dictionary { h with keyword := k } es, ?_, hchecked, hplant⟩
    rw [hd.tree]
    rfl
  -- the entries of the tree are the same ones, and those of the copy are new
  have hsame : ∀ x, ws.Reaches d x → ws'.node x = ws.node x := by
    intro x hx
    obtain ⟨e', he'⟩ := hd.of_reaches hx
    exact hturns.node_eq x (Multiset.notMem_zero x) he'.lt
  have hd' : ws'.Unfolds d (.dictionary h es) := hd.congr hturns.size_le hsame
  have hnew : ∀ x, ws'.Reaches c x → ws.nodes.size ≤ x.index := by
    intro x hx
    obtain ⟨part, hle, e', hpart⟩ := howns.of_reaches hx
    exact (hturns.new x (Multiset.mem_of_le hle hpart.mem)).resolve_left (Multiset.notMem_zero x)
  have hapart : ws'.Apart c d := by
    intro x hx hxd
    obtain ⟨e', he'⟩ := hd.of_reaches (hxd.congr hsame)
    exact absurd he'.lt (Nat.not_lt.mpr (hnew x hx))
  refine ⟨c, ws', hclone, howns.unfolds.tree, hd'.tree, ?_, hapart, ?_, ?_⟩
  · intro x y hx hy hdictionary
    obtain ⟨part, -, e', hpart⟩ := howns.of_reaches hx
    exact hpart.parent_of_mem hy hdictionary
  · exact fun ops hops => (performAll_unfolds hd' hapart hops).tree
  · exact fun ops hops => (performAll_unfolds howns.unfolds hapart.symm hops).tree

/-- A dictionary with a pattern. -/
def patternedDictionary : Entry :=
  .dictionary ⟨"d", false, 1, 3⟩ [.primitive ⟨"x", true, 2, 2⟩ [⟨.number (.int 1), 2⟩]]

def storedPattern : Ref × Workspace := plant {} none patternedDictionary

/-- The copy loses its entry and gets another copy of it, and the dictionary stays. -/
theorem clone_independent_pattern : ∃ c ws',
    storedPattern.2.clone storedPattern.1 (some "c") = .ok (c, ws') ∧
      (performAll ws' [.remove c "x" false, .merge c storedPattern.1]).tree storedPattern.1 =
        patternedDictionary := by
  have hchecked : patternedDictionary.Checked := by
    unfold Checked
    cbv
    decide
  obtain ⟨owned, howns, -⟩ := plant_owns hchecked {} none
  obtain ⟨c, ws', hclone, -, -, -, -, hown, -⟩ := clone_independent (k := "c") howns.unfolds
    (checked_dictionary.mp hchecked).2 rfl
  exact ⟨c, ws', hclone, hown _ ⟨.refl, .refl, trivial⟩⟩

/-- The dictionary after its pattern was given a malformed keyword, which fails. -/
def storedMalformed : Workspace := (storedPattern.2.rename ⟨1⟩ "(").2

/-- A dictionary `d`, and a dictionary `x` with the entry `a` of `d` in it. -/
def storedShared : Workspace :=
  ⟨#[.dictionary ⟨"d", false, 1, 3⟩ ⟨[⟨1⟩], none, false⟩, .primitive ⟨"a", false, 2, 2⟩ [],
    .dictionary ⟨"x", false, -1, -1⟩ ⟨[⟨1⟩], none, false⟩]⟩

/-- They and a copy of `d`. -/
def storedCopy : Workspace :=
  (storedShared.plant none
    (.dictionary ⟨"c", false, 1, 3⟩ [.primitive ⟨"a", false, 2, 2⟩ []])).2

/-- A dictionary with a malformed pattern in it cannot be copied; and where a dictionary is inserted
in a copy with entries of the original in it, changes of these show in both. -/
theorem clone_limits :
    (storedMalformed.Unfolds ⟨0⟩ (.dictionary ⟨"d", false, 1, 3⟩
        [.primitive ⟨"(", true, 2, 2⟩ [⟨.number (.int 1), 2⟩]]) ∧
      storedMalformed.clone ⟨0⟩ (some "c") = .error (.unplaced (.malformedPattern "(") 2)) ∧
    storedShared.clone ⟨0⟩ (some "c") = .ok (⟨3⟩, storedCopy) ∧ ¬storedCopy.Reaches ⟨0⟩ ⟨2⟩ ∧
      (storedCopy.insert ⟨3⟩ ⟨2⟩).Reaches ⟨3⟩ ⟨1⟩ ∧
      (performAll storedCopy [.insert ⟨3⟩ ⟨2⟩ none, .rename ⟨1⟩ "b"]).tree ⟨0⟩ ≠
        storedCopy.tree ⟨0⟩ := by
  refine ⟨⟨⟨_, rfl, ⟨by decide, rfl⟩, trivial⟩, by cbv⟩, rfl, ?_, ?_, ?_⟩
  · intro hx
    have hall : ∀ y, storedCopy.Reaches ⟨0⟩ y → y = ⟨0⟩ ∨ y = ⟨1⟩ := by
      intro y hy
      induction hy with
      | refl => exact .inl rfl
      | tail _ hmem ih =>
        rcases ih with rfl | rfl
        · exact .inr (List.mem_singleton.mp hmem)
        · exact absurd hmem List.not_mem_nil
    exact absurd (hall ⟨2⟩ hx) (by decide)
  · have hinserted : (⟨2⟩ : Ref) ∈ (storedCopy.insert ⟨3⟩ ⟨2⟩).members ⟨3⟩ := by decide
    have hshared : (⟨1⟩ : Ref) ∈ (storedCopy.insert ⟨3⟩ ⟨2⟩).members ⟨2⟩ := by decide
    exact .tail (.single hinserted) hshared
  · intro htree
    have hkeywords := congrArg (fun e : Entry => e.inner?.map (·.map keyword)) htree
    exact absurd hkeywords (by decide)

end Workspace

end CaseDict
