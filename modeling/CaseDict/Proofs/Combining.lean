import CaseDict.Proofs.Endings
import CaseDict.Proofs.Housing
/-! # Merging and placing owned entries

Merging a stored dictionary into another, and placing a stored entry in a dictionary, do to the
trees what merging and placing trees does, and what the dictionary has afterwards is owned by it
alone: what comes from the other dictionary is copied. -/

namespace CaseDict

namespace Entry

variable {own before after es inner : List Entry} {e : Entry} {h k : Heading}

theorem exists_of_isDictionary (he : e.isDictionary = true) :
    ∃ h es, e = dictionary h es := by
  cases e with
  | primitive => contradiction
  | dictionary h es => exact ⟨h, es, rfl⟩

/-- The newest that passes a test. -/
theorem find?_reverse_append {α : Type} {before after : List α} {e : α} {q : α → Bool}
    (he : q e = true) (hafter : ∀ x ∈ after, q x = false) :
    (before ++ e :: after).reverse.find? q = some e := by
  rw [List.find?_eq_some_iff_append]
  exact ⟨he, after.reverse, before.reverse, by simp, fun x hx => by
    simp [hafter x (List.mem_reverse.mp hx)]⟩

/-- A dictionary is merged into the newest plain entry of its keyword. -/
theorem mergeOne_of_named (hk : k.isNamed h.keyword = true)
    (hafter : ∀ x ∈ after, x.head.isNamed h.keyword = false) :
    mergeOne (before ++ dictionary k inner :: after) (dictionary h es) =
      before ++ dictionary (mergedHead k h) (mergeAll inner es) :: after := by
  have hfind : (before ++ dictionary k inner :: after).reverse.find?
      (·.head.isNamed h.keyword) = some (dictionary k inner) := find?_reverse_append hk hafter
  unfold mergeOne
  simp only [hfind]
  refine congrArg (Option.getD · _) (changeLast_append ?_ fun x hx => ?_)
  · exact if_pos hk
  · exact if_neg (by simp [hafter x hx])

/-- Any other entry takes the place of all of its keyword. -/
theorem mergeOne_of_other (he : e.isDictionary = true → ∀ k inner,
      own.reverse.find? (·.head.isNamed e.keyword) ≠ some (dictionary k inner)) :
    mergeOne own e = without e.keyword own ++ [e] := by
  cases e with
  | primitive h ts => rfl
  | dictionary h es =>
    unfold mergeOne
    dsimp only
    split
    · next k inner hf => exact absurd hf (he rfl k inner)
    · rfl

end Entry

theorem InputMode.mergeable_of_placement {mode : InputMode} {mergeable : Bool}
    (h : mode.placement mergeable = .merge) : mergeable = true := by
  cases mode <;> cases mergeable <;> first | rfl | contradiction

namespace Workspace

open Entry

variable {α : Type} {ws ws' : Workspace} {d r other : Ref} {e : Entry}
  {es before after : List Entry} {around p : Option Ref} {rs : List Ref}
  {owned owned' first theirs : Multiset Ref} {h k : Heading} {t : Bool}

theorem exec_set (new : Workspace) : exec (set new : Change PUnit) ws = (.ok ⟨⟩, new) := rfl

/-! ### One of the members -/

theorem OwnsAll.find?_eq_none (ho : OwnsAll ws around rs owned es) (q : Heading → Bool) :
    rs.reverse.find? (fun r => q (ws.head r)) = none ↔
      es.reverse.find? (fun e => q e.head) = none := by
  have hmem (x : Heading) : (∃ r ∈ rs, ws.head r = x) ↔ ∃ e ∈ es, e.head = x := by
    rw [← List.mem_map, ho.heads, List.mem_map]
  simp only [List.find?_eq_none, List.mem_reverse]
  constructor
  · intro hr e he
    obtain ⟨r, hr', hh⟩ := (hmem e.head).mpr ⟨e, he, rfl⟩
    exact hh ▸ hr r hr'
  · intro he r hr
    obtain ⟨e, he', hh⟩ := (hmem (ws.head r)).mp ⟨r, hr, rfl⟩
    exact hh ▸ he e he'

/-- The newest member that passes a test of headings is the newest tree that does. It can be
changed to another entry. -/
theorem OwnsAll.find?_eq_some (ho : OwnsAll ws around rs owned es) (q : Heading → Bool)
    (hr : rs.reverse.find? (fun r => q (ws.head r)) = some r) :
    ∃ before e after first others, es = before ++ e :: after ∧ owned = first + others ∧
      q e.head = true ∧ (∀ x ∈ after, q x.head = false) ∧ Owns ws r first e ∧
      (ws.isDictionary r → ∀ d ∈ around, ws.parent r = some d) ∧
      ∀ {ws' : Workspace} {first' : Multiset Ref} {e' : Entry}, Owns ws' r first' e' →
        (ws'.isDictionary r → ∀ d ∈ around, ws'.parent r = some d) →
        ws.nodes.size ≤ ws'.nodes.size → (∀ x ∈ others, ws'.node x = ws.node x) →
          OwnsAll ws' around rs (first' + others) (before ++ e' :: after) := by
  cases hf : es.reverse.find? (fun e => q e.head) with
  | none =>
    rw [(ho.find?_eq_none q).mpr hf] at hr
    contradiction
  | some e =>
    obtain ⟨before, after, rfl, hq, hafter⟩ := exists_of_find?_reverse hf
    obtain ⟨rs₁, rs₂, owned₁, owned₂, rfl, rfl, h₁, h₂⟩ := ho.split
    cases rs₂ with
    | nil => exact h₂.elim
    | cons r' rs₂ =>
      obtain ⟨first, others, rfl, hr', hp, h₂⟩ := h₂
      -- what comes after does not pass the test
      have hrs₂ : rs₂.reverse.find? (fun r => q (ws.head r)) = none := by
        rw [h₂.find?_eq_none q, List.find?_eq_none]
        intro x hx
        simp [hafter x (List.mem_reverse.mp hx)]
      obtain rfl : r' = r := by
        simpa [List.find?_append, hrs₂, hr'.head, hq] using hr
      refine ⟨before, e, after, first, owned₁ + others, rfl, ?_, hq, hafter, hr', hp,
        fun {ws' first' e'} hown hp' hs hx => ?_⟩
      · rw [← add_assoc, ← add_assoc, add_comm owned₁ first]
      · have h₁' := h₁.congr hs fun x hm => hx x (Multiset.mem_add.mpr (.inl hm))
        have h₂' := h₂.congr hs fun x hm => hx x (Multiset.mem_add.mpr (.inr hm))
        have hsum : first' + (owned₁ + others) = owned₁ + (first' + others) := by
          rw [← add_assoc, add_comm first' owned₁, add_assoc]
        rw [hsum]
        exact h₁'.append ⟨first', others, rfl, hown, hp', h₂'⟩

/-! ### Changes of a dictionary -/

/-- The change makes of a dictionary that owns `owned` one with the heading `h` and the entries
`es`, which is apart from everything but what it was. -/
def Makes (m : Change α) (ws : Workspace) (d : Ref) (owned : Multiset Ref) (h : Heading)
    (p : Option Ref) (t : Bool) (es : List Entry) : Prop :=
  ∃ a ws' owned', exec m ws = (.ok a, ws') ∧ Houses ws' d h p t owned' es ∧
    Turns ws ws' (d ::ₘ owned) (d ::ₘ owned')

theorem Makes.congr {m m' : Change α} (hx : exec m ws = exec m' ws)
    (hm : Makes m' ws d owned h p t es) : Makes m ws d owned h p t es := by
  obtain ⟨a, ws', owned', hx', hd⟩ := hm
  exact ⟨a, ws', owned', hx.trans hx', hd⟩

theorem Makes.andThen {β : Type} {m : Change α} {m' : α → Change β} {h' : Heading}
    {es' : List Entry} (hm : Makes m ws d owned h p t es)
    (hm' : ∀ a ws' owned', Houses ws' d h p t owned' es →
      Turns ws ws' (d ::ₘ owned) (d ::ₘ owned') → Makes (m' a) ws' d owned' h' p t es') :
    Makes (m >>= m') ws d owned h' p t es' := by
  obtain ⟨a, ws', owned', hx, hd, ht⟩ := hm
  obtain ⟨b, ws'', owned'', hx', hd', ht'⟩ := hm' a ws' owned' hd ht
  exact ⟨b, ws'', owned'', by rw [exec_bind, hx]; exact hx', hd', ht.trans ht'⟩

theorem Houses.members (hd : Houses ws d h p t owned es) :
    OwnsAll ws (some d) (ws.members d) owned es := by
  obtain ⟨rs, hnode, hes⟩ := hd
  simpa [Workspace.members, hnode, Node.inside?] using hes

theorem Houses.head (hd : Houses ws d h p t owned es) : ws.head d = h := by
  obtain ⟨rs, hnode, -⟩ := hd
  rw [Workspace.head, hnode]
  rfl

theorem Houses.find?_eq_none (hd : Houses ws d h p t owned es) (q : Heading → Bool) :
    (ws.members d).reverse.find? (fun r => q (ws.head r)) = none ↔
      es.reverse.find? (fun e => q e.head) = none := hd.members.find?_eq_none q

/-- The newest member that passes a test of headings is the newest tree that does. If it is a
dictionary, a change of it is a change of the one it is in. -/
theorem Houses.newest (hd : Houses ws d h p t owned es) (hn : (d ::ₘ owned).Nodup)
    (q : Heading → Bool) (hr : (ws.members d).reverse.find? (fun r => q (ws.head r)) = some r) :
    ∃ before e after, es = before ++ e :: after ∧ q e.head = true ∧
      (∀ x ∈ after, q x.head = false) ∧ ws.head r = e.head ∧
      ws.isDictionary r = e.isDictionary ∧ ∀ k inner, e = .dictionary k inner →
        ∃ own p', r ::ₘ own ≤ owned ∧ Houses ws r k p' false own inner ∧
          ∀ {m : Change Unit} {k' : Heading} {inner' : List Entry}, k'.failure? = k.failure? →
            Makes m ws r own k' p' false inner' →
              Makes m ws d owned h p t (before ++ .dictionary k' inner' :: after) := by
  have hlt := hd.mem_lt d (Multiset.mem_cons_self d owned)
  obtain ⟨before, e, after, first, others, rfl, rfl, hq, hafter, hown, hp, hchange⟩ :=
    hd.members.find?_eq_some q hr
  refine ⟨before, e, after, rfl, hq, hafter, hown.head, hown.isDictionary, ?_⟩
  rintro k inner rfl
  obtain ⟨p', own, hk, rfl, hhouse⟩ := owns_dictionary.mp hown
  refine ⟨own, p', Multiset.le_add_right _ _, hhouse, ?_⟩
  rintro m k' inner' hk' ⟨a, ws', own', hx, hhouse', hturns⟩
  have hsum (own : Multiset Ref) : d ::ₘ (r ::ₘ own + others) = r ::ₘ own + d ::ₘ others :=
    (Multiset.add_cons ..).symm
  have hothers (x : Ref) (hx : x ∈ d ::ₘ others) : x.index < ws.nodes.size := by
    refine hd.mem_lt x ?_
    rw [hsum]
    exact Multiset.mem_add.mpr (.inr hx)
  rw [hsum] at hn
  have hapart {x : Ref} (hx : x ∈ d ::ₘ others) : x ∉ r ::ₘ own :=
    Multiset.disjoint_right.mp (Multiset.nodup_add.mp hn).2.2 hx
  have hframe := hturns.frame hothers hn
  rw [← hsum, ← hsum] at hframe
  refine ⟨a, ws', r ::ₘ own' + others, hx, ⟨_, ?_, hchange ?_ ?_ hturns.size_le ?_⟩, hframe⟩
  · rw [hturns.node_eq d (hapart (Multiset.mem_cons_self d others)) hlt]
    obtain ⟨rs, hnode, -⟩ := hd
    rw [hnode, Workspace.members, hnode]
    rfl
  · exact owns_dictionary.mpr ⟨p', own', hk'.trans hk, rfl, hhouse'⟩
  · intro _ x hx
    have hparent := hp (hown.isDictionary.trans rfl) x hx
    obtain ⟨rs, hnode, -⟩ := hhouse
    obtain ⟨rs', hnode', -⟩ := hhouse'
    rw [Workspace.parent, hnode] at hparent
    rw [Workspace.parent, hnode']
    exact hparent
  · intro x hx
    have hx : x ∈ d ::ₘ others := Multiset.mem_cons_of_mem hx
    exact hturns.node_eq x (hapart hx) (hothers x hx)

/-- A new entry takes the place of all of its keyword. -/
theorem Houses.replace (hd : Houses ws d h p t owned es) (hr : Owns ws r first e)
    (hn : (d ::ₘ owned + first).Nodup) : ∃ owned',
      Houses ((ws.filterMembers d (· != e.keyword)).insert d r) d h p t owned'
        (without e.keyword es ++ [e]) ∧
      Turns ws ((ws.filterMembers d (· != e.keyword)).insert d r) (d ::ₘ owned + first)
        (d ::ₘ owned') := by
  obtain ⟨hdn, -, hdisj⟩ := Multiset.nodup_add.mp hn
  obtain ⟨left, hle, hleft, hturns⟩ := hd.filterMembers hdn (· != e.keyword)
  have hframe := hturns.frame hr.lt hn
  have hsum : d ::ₘ left + first = d ::ₘ (left + first) := Multiset.cons_add ..
  rw [hsum] at hframe
  obtain ⟨hins, hturns'⟩ := hleft.insert (hturns.owns hr hdisj) hframe.nodup
  exact ⟨left + first, hins, hframe.trans hturns'⟩

theorem replace_makes (hd : Houses ws d h p t owned es) (hr : Owns ws r first e)
    (hn : (d ::ₘ owned + first).Nodup) :
    Makes (mergeWithin.replace d r) ws d owned h p t (without e.keyword es ++ [e]) := by
  obtain ⟨hdn, hfirst, hdisj⟩ := Multiset.nodup_add.mp hn
  obtain ⟨left, hle, hleft, hturns⟩ := hd.filterMembers hdn (· != e.keyword)
  obtain ⟨copy, ws₂, new, hclone, hcopy, hturns₂⟩ := clone_owns (hturns.owns hr hdisj) hfirst
  have hframe := hturns₂.frame hleft.mem_lt ((zero_add (d ::ₘ left)).symm ▸ hturns.nodup)
  have hsum : new + d ::ₘ left = d ::ₘ (left + new) := by rw [Multiset.add_cons, add_comm]
  rw [zero_add, hsum] at hframe
  obtain ⟨hins, hturns₃⟩ :=
    (hleft.turns hturns₂ (Multiset.zero_disjoint _)).insert hcopy hframe.nodup
  refine ⟨⟨⟩, _, left + new, ?_, hins, (hturns.trans hframe).trans hturns₃⟩
  have hkey : (ws.head r).keyword = e.keyword := by rw [hr.head]; rfl
  simp only [mergeWithin.replace, exec_bind, exec_get, hkey, exec_set, hclone, exec_lift]

/-! ### Merging -/

/-- Merges one entry into those of the dictionary `d`. -/
def mergeEntry (depth : Nat) (d e : Ref) : Change Unit := do
  let ws ← get
  match Lookup.findNamed ws.inspection (ws.head e).keyword (ws.members d) with
  | some old =>
    if ws.isDictionary old && ws.isDictionary e then mergeWithin depth old e
    else mergeWithin.replace d e
  | none => mergeWithin.replace d e

theorem mergeWithin_succ (depth : Nat) (d other : Ref) : mergeWithin (depth + 1) d other = (do
    ((← get).members other).forM (mergeEntry depth d)
    modify fun ws => ws.mergeLines d other) := rfl

/-- Merging dictionaries of at most that many entries does to stored dictionaries what it does to
trees. -/
def MergesWithin (depth : Nat) : Prop :=
  ∀ {ws : Workspace} {d other : Ref} {h k : Heading} {p q : Option Ref} {t u : Bool}
    {owned theirs : Multiset Ref} {es es' : List Entry}, Houses ws d h p t owned es →
      Houses ws other k q u theirs es' → (d ::ₘ owned + other ::ₘ theirs).Nodup →
      (other ::ₘ theirs).card ≤ depth →
        Makes (mergeWithin depth d other) ws d owned (mergedHead h k) p t (mergeAll es es')

theorem mergeEntry_makes {depth : Nat} (ih : MergesWithin depth)
    (hd : Houses ws d h p t owned es) (hr : Owns ws r first e) (hn : (d ::ₘ owned + first).Nodup)
    (hcard : first.card ≤ depth) :
    Makes (mergeEntry depth d r) ws d owned h p t (mergeOne es e) := by
  have hreplace := replace_makes hd hr hn
  obtain ⟨hdn, hfirst, hdisj⟩ := Multiset.nodup_add.mp hn
  have hkey : (ws.head r).keyword = e.keyword := by rw [hr.head]; rfl
  have hx : exec (mergeEntry depth d r) ws =
      match Lookup.findNamed ws.inspection e.keyword (ws.members d) with
      | some old =>
        if ws.isDictionary old && ws.isDictionary r then exec (mergeWithin depth old r) ws
        else exec (mergeWithin.replace d r) ws
      | none => exec (mergeWithin.replace d r) ws := by
    simp only [mergeEntry, exec_bind, exec_get, hkey]
    repeat' split
    all_goals rfl
  cases hf : Lookup.findNamed ws.inspection e.keyword (ws.members d) with
  | none =>
    rw [hf] at hx
    have hnone := (hd.find?_eq_none (·.isNamed e.keyword)).mp hf
    rw [mergeOne_of_other fun _ k inner => by rw [hnone]; exact (Option.some_ne_none _).symm]
    exact hreplace.congr hx
  | some old =>
    obtain ⟨before, o, after, rfl, hq, hafter, -, hdict, hmember⟩ :=
      hd.newest hdn (·.isNamed e.keyword) hf
    simp only [hf, hdict, hr.isDictionary] at hx
    cases ho : o.isDictionary && e.isDictionary with
    | true =>
      rw [ho] at hx
      obtain ⟨hod, hed⟩ := Bool.and_eq_true_iff.mp ho
      obtain ⟨k, inner, rfl⟩ := exists_of_isDictionary hod
      obtain ⟨k', es', rfl⟩ := exists_of_isDictionary hed
      obtain ⟨own, p', hle, hold, hmakes⟩ := hmember k inner rfl
      obtain ⟨q', theirs, -, rfl, hother⟩ := owns_dictionary.mp hr
      have hq : k.isNamed k'.keyword = true := hq
      have hafter : ∀ x ∈ after, x.head.isNamed k'.keyword = false := hafter
      rw [mergeOne_of_named hq hafter]
      refine (hmakes (failure?_mergedHead k k') (ih hold hother ?_ hcard)).congr hx
      refine Multiset.nodup_of_le (Multiset.add_le_add_right ?_) hn
      exact hle.trans (Multiset.le_cons_self owned d)
    | false =>
      rw [ho] at hx
      rw [mergeOne_of_other fun he k inner hk => ?_]
      · exact hreplace.congr hx
      · have hfind : (before ++ o :: after).reverse.find? (·.head.isNamed e.keyword) = some o :=
          find?_reverse_append hq hafter
        rw [hfind] at hk
        obtain rfl := Option.some.inj hk
        rw [he] at ho
        contradiction

theorem mergeEach_makes {depth : Nat} (ih : MergesWithin depth) {es' : List Entry}
    (hd : Houses ws d h p t owned es) (hr : OwnsAll ws around rs theirs es')
    (hn : (d ::ₘ owned + theirs).Nodup) (hcard : theirs.card ≤ depth) :
    Makes (rs.forM (mergeEntry depth d)) ws d owned h p t (mergeAll es es') := by
  induction rs generalizing ws owned theirs es es' with
  | nil =>
    cases es' with
    | cons => exact hr.elim
    | nil => exact ⟨⟨⟩, ws, owned, rfl, hd, .refl (Multiset.nodup_add.mp hn).1⟩
  | cons r rs ihrs =>
    cases es' with
    | nil => exact hr.elim
    | cons e es' =>
      obtain ⟨first, others, rfl, hr, -, hrs⟩ := hr
      rw [Multiset.card_add] at hcard
      have hn' : (d ::ₘ owned + first + others).Nodup := by rwa [add_assoc]
      obtain ⟨hfirst, -, hdisj⟩ := Multiset.nodup_add.mp hn'
      rw [mergeAll]
      refine (mergeEntry_makes ih hd hr hfirst (by omega)).andThen fun _ ws' owned' hd' ht => ?_
      -- what is still to be merged is not changed
      have hdisj := (Multiset.disjoint_add_left.mp hdisj).1
      have hothers : (d ::ₘ owned + others).Nodup :=
        Multiset.nodup_add.mpr ⟨(Multiset.nodup_add.mp hfirst).1, (Multiset.nodup_add.mp hn').2.1,
          hdisj⟩
      exact ihrs hd' (ht.ownsAll hrs hdisj) (ht.frame hrs.lt hothers).nodup (by omega)

theorem mergesWithin (depth : Nat) : MergesWithin depth := by
  induction depth with
  | zero =>
    intro ws d other h k p q t u owned theirs es es' _ _ _ hcard
    rw [Multiset.card_cons] at hcard
    exact absurd hcard (Nat.not_succ_le_zero _)
  | succ depth ih =>
    intro ws d other h k p q t u owned theirs es es' hd hother hn hcard
    rw [Multiset.card_cons] at hcard
    obtain ⟨hdn, htheirs, hdisj⟩ := Multiset.nodup_add.mp hn
    obtain ⟨-, hinner⟩ := Multiset.disjoint_cons_right.mp hdisj
    have hn' : (d ::ₘ owned + theirs).Nodup :=
      Multiset.nodup_add.mpr ⟨hdn, (Multiset.nodup_cons.mp htheirs).2, hinner⟩
    have hloop := mergeEach_makes ih hd hother.members hn' (by omega)
    have hx : exec (mergeWithin (depth + 1) d other) ws =
        exec ((ws.members other).forM (mergeEntry depth d) >>= fun _ =>
          modify fun ws => ws.mergeLines d other) ws := by
      simp only [mergeWithin_succ, exec_bind, exec_get]
    refine (hloop.andThen fun _ ws' owned' hd' ht => ?_).congr hx
    have hk : ws'.head other = k := (hother.turns ht hdisj).head
    refine ⟨⟨⟩, _, owned', rfl, ?_, .update _ ht.nodup (Multiset.mem_cons_self d owned')⟩
    have hlines : ws'.mergeLines d other = ws'.update d (·.withHead (mergedHead h k)) := by
      have hh : (ws'.node d).head = h := hd'.head
      simp only [mergeLines, update, hk, hh]
    change Houses (ws'.mergeLines d other) d (mergedHead h k) p t owned' (mergeAll es es')
    exact hlines ▸ hd'.withHead ht.nodup (mergedHead h k)

theorem merge_makes {q : Option Ref} {u : Bool} {es' : List Entry}
    (hd : Houses ws d h p t owned es) (hother : Houses ws other k q u theirs es')
    (hn : (d ::ₘ owned + other ::ₘ theirs).Nodup) :
    Makes (merge d other) ws d owned (mergedHead h k) p t (mergeAll es es') :=
  mergesWithin _ hd hother hn
    (Nat.le_succ_of_le (card_le_size hother.mem_lt (Multiset.nodup_add.mp hn).2.1))

/-! ### Placing -/

theorem exec_place (mode : InputMode) (ws : Workspace) (d r : Ref) :
    exec (place mode d r) ws =
      match ws.newest? d (ws.head r).keyword with
      | none => (.ok ([r], []), ws.insert d r)
      | some old =>
        match mode.placement (ws.isDictionary old && ws.isDictionary r) with
        | .append => (.ok ([r], []), ws.insert d r)
        | .merge => exec (merge old r >>= fun _ => pure ([old], [])) ws
        | .replace =>
          (.ok ([r], []), (ws.filterMembers d (· != (ws.head r).keyword)).insert d r)
        | .ignore warns => (.ok ([], (ws.head r).ignored warns (ws.head old).startLine), ws)
        | .refuse => (.error ((ws.head r).duplicate (ws.head old).startLine), ws) := by
  simp only [place, exec_bind, exec_get]
  cases ws.newest? d (ws.head r).keyword with
  | none => rfl
  | some old =>
    dsimp only
    cases mode.placement (ws.isDictionary old && ws.isDictionary r) with
    | merge => rw [← exec_bind]
    | append | replace | ignore | refuse => rfl

/-- Placing a stored entry does to the dictionary what placing the tree does. -/
theorem place_spec (mode : InputMode) (hd : Houses ws d h p t owned es)
    (hr : Owns ws r first e) (hn : (d ::ₘ owned + first).Nodup) :
    match e.place mode es with
    | .ok q => ∃ refs ws' owned', exec (place mode d r) ws = (.ok (refs, q.events), ws') ∧
        Houses ws' d h p t owned' q.entries ∧ Turns ws ws' (d ::ₘ owned + first) (d ::ₘ owned')
    | .error f => ∃ ws', exec (place mode d r) ws = (.error f, ws') := by
  have hkey : (ws.head r).keyword = e.keyword := by rw [hr.head]; rfl
  have hx := exec_place mode ws d r
  obtain ⟨hdn, hfirst, hdisj⟩ := Multiset.nodup_add.mp hn
  have hsum : d ::ₘ owned + first = d ::ₘ (owned + first) := Multiset.cons_add ..
  obtain ⟨hinsert, hturns⟩ := hd.insert hr (hsum ▸ hn)
  have hturns : Turns ws (ws.insert d r) (d ::ₘ owned + first) (d ::ₘ (owned + first)) := by
    rwa [hsum]
  cases hf : ws.newest? d (ws.head r).keyword with
  | none =>
    rw [hf] at hx
    rw [hkey] at hf
    have hnone : Entry.newest? e.keyword es = none :=
      (hd.find?_eq_none (·.keyword == e.keyword)).mp hf
    have hp : e.place mode es = .ok ⟨es ++ [e], [e], []⟩ := by rw [Entry.place, hnone]
    rw [hp]
    exact ⟨[r], _, _, hx, hinsert, hturns⟩
  | some old =>
    rw [hf] at hx
    rw [hkey] at hf
    obtain ⟨before, o, after, rfl, hq, hafter, hohead, hdict, hmember⟩ :=
      hd.newest hdn (·.keyword == e.keyword) hf
    have hnew : Entry.newest? e.keyword (before ++ o :: after) = some o :=
      find?_reverse_append hq hafter
    unfold Entry.place
    rw [hnew]
    dsimp only at hx ⊢
    rw [hdict, hr.isDictionary, hkey, hohead, hr.head] at hx
    cases hp : mode.placement (o.isDictionary && e.isDictionary) with
    | append =>
      rw [hp] at hx
      exact ⟨[r], _, _, hx, hinsert, hturns⟩
    | replace =>
      rw [hp] at hx
      obtain ⟨owned', hreplace⟩ := hd.replace hr hn
      exact ⟨[r], _, owned', hx, hreplace⟩
    | ignore warns =>
      rw [hp] at hx
      refine ⟨[], ws, owned, hx, hd, ?_⟩
      exact (Turns.refl hn).of_le (Multiset.le_add_right _ _)
    | refuse =>
      rw [hp] at hx
      exact ⟨ws, hx⟩
    | merge =>
      rw [hp] at hx
      obtain ⟨hod, hed⟩ := Bool.and_eq_true_iff.mp (InputMode.mergeable_of_placement hp)
      obtain ⟨k, inner, rfl⟩ := exists_of_isDictionary hod
      obtain ⟨k', es', rfl⟩ := exists_of_isDictionary hed
      obtain ⟨own, p', hle, hold, hmakes⟩ := hmember k inner rfl
      obtain ⟨q', theirs, -, rfl, hother⟩ := owns_dictionary.mp hr
      have hn' : (old ::ₘ own + r ::ₘ theirs).Nodup :=
        Multiset.nodup_of_le
          (Multiset.add_le_add_right (hle.trans (Multiset.le_cons_self owned d))) hn
      obtain ⟨a, ws', owned', hx', hd', ht⟩ :=
        hmakes (failure?_mergedHead k k') (merge_makes hold hother hn')
      rw [exec_bind, hx'] at hx
      refine ⟨[old], ws', owned', hx, ?_, (ht.frame hr.lt hn).of_le (Multiset.le_add_right _ _)⟩
      rw [mergeNewest_append hq hafter]
      exact hd'

end Workspace

end CaseDict
