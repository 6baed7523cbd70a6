import CaseDict.Proofs.Combining
import CaseDict.Proofs.Distinct
import CaseDict.Proofs.Shadowing
import Mathlib.Data.List.Find
/-! # Merging dictionaries is merging maps

Without patterns a dictionary finds its newest entry of each keyword, so merging another dictionary
into it does to its value what the deep merge of maps does (`Workspace.merge_deepMerge`). The proof
is in three steps: what is under a keyword after one entry is merged (`Entry.newest?_mergeOne`),
after all of them (`Entry.newest?_mergeAll`), and its value (`Entry.fields_merged`). What is under a
keyword may be a dictionary again, so the whole is an induction on the one that is merged. -/

namespace CaseDict

namespace Value

mutual

/-- Merges a map into another one: a key of both has the merged values, and the keys of the second
only follow. Any other value takes the place of the first. -/
def deepMerge : Value → Value → Value
  | .map fs, .map gs => .map (mergeFields fs gs ++ gs.filter fun g => (fs.lookup g.1).isNone)
  | _, w => w

/-- The fields of the first map, each merged with the one of the second that has its key. -/
def mergeFields : List (String × Value) → List (String × Value) → List (String × Value)
  | [], _ => []
  | (k, v) :: fs, gs => (k, (gs.lookup k).elim v (deepMerge v)) :: mergeFields fs gs

end

def isMap : Value → Bool
  | .map _ => true
  | _ => false

variable {k k' : String} {v w : Value} {fs gs : List (String × Value)}

/-! ### Fields -/

theorem lookup_field (k k' : String) (v : Value) (fs : List (String × Value)) :
    ((k, v) :: fs).lookup k' = if k = k' then some v else fs.lookup k' := by
  rw [List.lookup_cons]
  split
  · next h => rw [if_pos (beq_iff_eq.mp h).symm]
  · next h => rw [if_neg (Ne.symm (beq_eq_false_iff_ne.mp h))]

theorem lookup_eq_none : fs.lookup k = none ↔ k ∉ fs.map Prod.fst := by
  induction fs with
  | nil => simp
  | cons f fs ih =>
    obtain ⟨k', v⟩ := f
    rw [lookup_field, List.map_cons, List.mem_cons, not_or, ← ih]
    by_cases h : k' = k
    · simp [h]
    · simp [h, Ne.symm h]

theorem lookup_setField (k k' : String) (v : Value) (fs : List (String × Value)) :
    (setField k v fs).lookup k' = if k = k' then some v else fs.lookup k' := by
  induction fs with
  | nil => exact lookup_field k k' v []
  | cons f fs ih =>
    obtain ⟨k₀, w⟩ := f
    rw [setField]
    split
    · next h => rw [lookup_field, lookup_field, h]; split <;> rfl
    · next h =>
      rw [lookup_field, lookup_field, ih]
      by_cases hk : k₀ = k'
      · rw [if_pos hk, if_neg (hk ▸ Ne.symm h), if_pos hk]
      · rw [if_neg hk, if_neg hk]

/-- A field that has the value already. -/
theorem setField_of_lookup (h : fs.lookup k = some v) : setField k v fs = fs := by
  induction fs with
  | nil => contradiction
  | cons f fs ih =>
    obtain ⟨k', w⟩ := f
    rw [lookup_field] at h
    rw [setField]
    split at h
    · next hk => rw [if_pos hk, hk, Option.some.inj h]
    · next hk => rw [if_neg hk, ih h]

theorem lookup_filter (keep : String → Bool) (k : String) (fs : List (String × Value)) :
    (fs.filter (keep ·.1)).lookup k = if keep k then fs.lookup k else none := by
  induction fs with
  | nil => simp
  | cons f fs ih =>
    obtain ⟨k', v⟩ := f
    rw [List.filter_cons, lookup_field]
    split
    · next hkeep =>
      rw [lookup_field, ih]
      by_cases h : k' = k
      · rw [if_pos h, if_pos h, if_pos (h ▸ hkeep)]
      · rw [if_neg h, if_neg h]
    · next hkeep =>
      rw [ih]
      by_cases h : k' = k
      · rw [if_neg (h ▸ hkeep), if_neg (h ▸ hkeep)]
      · rw [if_neg h]

/-- Maps with similar values under each key are similar. -/
theorem similar_of_lookup (hfs : (fs.map Prod.fst).Nodup) (hgs : (gs.map Prod.fst).Nodup)
    (h : ∀ k, Option.Rel Similar (fs.lookup k) (gs.lookup k)) : Similar (.map fs) (.map gs) := by
  suffices hperm : ∃ hs, fs.Perm hs ∧ SimilarFields hs gs from
    let ⟨_, hp, hs⟩ := hperm
    .map hp hs
  induction gs generalizing fs with
  | nil =>
    cases fs with
    | nil => exact ⟨[], .refl _, .nil⟩
    | cons f fs =>
      have hf := h f.1
      rw [lookup_field, if_pos rfl] at hf
      nomatch hf
  | cons g gs ih =>
    obtain ⟨k, w⟩ := g
    obtain ⟨hk, hgs⟩ := List.nodup_cons.mp hgs
    have hfirst := h k
    rw [lookup_field, if_pos rfl] at hfirst
    rcases hv : fs.lookup k with _ | v <;> rw [hv] at hfirst <;> cases hfirst
    next hvw =>
    have hperm : fs.Perm ((k, v) :: fs.filter (·.1 != k)) := by
      have hset := setField_perm (v := v) (k := k) hfs
      rw [setField_of_lookup hv] at hset
      exact hset.trans (List.perm_append_singleton _ _)
    have hothers : ((fs.filter (·.1 != k)).map Prod.fst).Nodup :=
      hfs.sublist (List.filter_sublist.map _)
    obtain ⟨hs, hrest, hsimilar⟩ := ih hothers hgs fun k' => by
      have hlookup := h k'
      rw [lookup_field] at hlookup
      rw [lookup_filter (· != k) k' fs]
      by_cases hk' : k' = k
      · subst hk'
        rw [lookup_eq_none.mpr hk, if_neg (by simp)]
        exact .none
      · rw [if_neg (Ne.symm hk')] at hlookup
        simpa [hk'] using hlookup
    exact ⟨(k, v) :: hs, hperm.trans (hrest.cons _), .cons hvw hsimilar⟩

/-! ### Merged fields -/

theorem keys_mergeFields (fs gs : List (String × Value)) :
    (mergeFields fs gs).map Prod.fst = fs.map Prod.fst := by
  induction fs with
  | nil => rw [mergeFields]
  | cons f fs ih =>
    obtain ⟨k, v⟩ := f
    rw [mergeFields, List.map_cons, List.map_cons, ih]

theorem lookup_mergeFields (k : String) (fs gs : List (String × Value)) :
    (mergeFields fs gs).lookup k =
      (fs.lookup k).map fun v => (gs.lookup k).elim v (deepMerge v) := by
  induction fs with
  | nil => rw [mergeFields]; rfl
  | cons f fs ih =>
    obtain ⟨k', v⟩ := f
    rw [mergeFields, lookup_field, lookup_field, ih]
    split
    · next h => rw [h]; rfl
    · rfl

/-- What the merged map has under a key. -/
theorem lookup_deepMerge (k : String) (fs gs : List (String × Value)) :
    (mergeFields fs gs ++ gs.filter fun g => (fs.lookup g.1).isNone).lookup k =
      (gs.lookup k).elim (fs.lookup k) fun w => some ((fs.lookup k).elim w (deepMerge · w)) := by
  have hfilter := lookup_filter (fun k => (fs.lookup k).isNone) k gs
  rw [List.lookup_append, lookup_mergeFields, hfilter]
  cases fs.lookup k <;> cases gs.lookup k <;> rfl

theorem nodup_deepMerge (hfs : (fs.map Prod.fst).Nodup) (hgs : (gs.map Prod.fst).Nodup) :
    ((mergeFields fs gs ++ gs.filter fun g => (fs.lookup g.1).isNone).map Prod.fst).Nodup := by
  rw [List.map_append, keys_mergeFields]
  refine List.nodup_append'.mpr ⟨hfs, hgs.sublist (List.filter_sublist.map _), ?_⟩
  intro k hk hk'
  obtain ⟨g, hg, rfl⟩ := List.mem_map.mp hk'
  exact lookup_eq_none.mp (Option.isNone_iff_eq_none.mp (List.mem_filter.mp hg).2) hk

/-! ### Values of tokens -/

theorem isMap_ofSymbol (s : Symbol) : (ofSymbol s).isMap = false := by
  cases s <;> rfl

theorem isMap_closeAll {current : List Value} {opened : List (List Value)}
    (hcurrent : ∀ v ∈ current, v.isMap = false)
    (hopened : ∀ vs ∈ opened, ∀ v ∈ vs, v.isMap = false) :
    ∀ v ∈ closeAll current opened, v.isMap = false := by
  induction opened generalizing current with
  | nil => exact hcurrent
  | cons outer more ih =>
    obtain ⟨houter, hmore⟩ := List.forall_mem_cons.mp hopened
    exact ih (List.forall_mem_append.mpr ⟨houter, List.forall_mem_singleton.mpr rfl⟩) hmore

theorem isMap_items {ts : List Token} {current : List Value} {opened : List (List Value)}
    (hcurrent : ∀ v ∈ current, v.isMap = false)
    (hopened : ∀ vs ∈ opened, ∀ v ∈ vs, v.isMap = false) :
    ∀ v ∈ items opened current ts, v.isMap = false := by
  induction ts generalizing current opened with
  | nil => exact isMap_closeAll hcurrent hopened
  | cons t ts ih =>
    unfold items
    split
    · exact ih (List.forall_mem_nil _) (List.forall_mem_cons.mpr ⟨hcurrent, hopened⟩)
    · obtain ⟨houter, hmore⟩ := List.forall_mem_cons.mp hopened
      exact ih (List.forall_mem_append.mpr ⟨houter, List.forall_mem_singleton.mpr rfl⟩) hmore
    · exact ih hcurrent hopened
    · exact ih hcurrent hopened
    · exact ih (List.forall_mem_append.mpr
        ⟨hcurrent, List.forall_mem_singleton.mpr (isMap_ofSymbol _)⟩) hopened

/-- Only dictionaries have maps as values. -/
theorem isMap_ofTokens (ts : List Token) : (ofTokens ts).isMap = false := by
  have hitems : ∀ v ∈ items [] [] ts, v.isMap = false :=
    isMap_items (List.forall_mem_nil _) (List.forall_mem_nil _)
  unfold ofTokens
  split
  · next v h => exact hitems v (by simp [h])
  · rfl

theorem deepMerge_of_not (h : v.isMap = false ∨ w.isMap = false) : deepMerge v w = w := by
  unfold deepMerge
  split
  · exact h.elim nofun nofun
  · rfl

end Value

namespace Entry

variable {own es : List Entry} {e : Entry} {k : String}

/-! ### Newest entries -/

theorem lookup_fields (k : String) (es : List Entry) :
    (fields [] es).lookup k = (newest? k es).map value := by
  induction es using List.reverseRecOn with
  | nil => rfl
  | append_singleton es e ih =>
    rw [fields_concat, Value.lookup_setField, newest?_concat, ih]
    split <;> rfl

theorem newest?_cons (hnew : e.keyword ∉ es.map keyword) :
    newest? k (e :: es) = if e.keyword = k then some e else newest? k es := by
  rw [newest?, List.reverse_cons, List.find?_append, ← newest?]
  split
  · next h =>
    subst h
    rw [newest?_eq_none.mpr hnew]
    simp
  · next h => simp [h]

/-- Where one entry stands, another one of its keyword. -/
theorem newest?_replaced {before after : List Entry} {old new : Entry}
    (hk : new.keyword = old.keyword) (hne : old.keyword ≠ k) :
    newest? k (before ++ new :: after) = newest? k (before ++ old :: after) := by
  simp [newest?, List.find?_append, hk, hne]

/-! ### Entries without patterns -/

/-- No keyword is a pattern, at any depth. -/
def Unpatterned (e : Entry) : Prop := ∀ h ∈ e.headings, h.isPattern = false

abbrev AllUnpatterned (es : List Entry) : Prop := ∀ e ∈ es, e.Unpatterned

theorem unpatterned_dictionary {h : Heading} :
    (dictionary h es).Unpatterned ↔ h.isPattern = false ∧ AllUnpatterned es := by
  rw [Unpatterned, headings_dictionary, List.forall_mem_cons]
  refine and_congr_right' ⟨fun hes e he k hk => hes k (mem_headingsOf.mpr ⟨e, he, hk⟩), ?_⟩
  intro hes k hk
  obtain ⟨e, he, hk⟩ := mem_headingsOf.mp hk
  exact hes e he k hk

theorem Unpatterned.head (h : e.Unpatterned) : e.head.isPattern = false := by
  cases e <;> exact h _ List.mem_cons_self

theorem Unpatterned.checked (h : e.Unpatterned) : e.Checked := fun k hk => by
  rw [Heading.failure?, h k hk]
  rfl

theorem hereditary_unpatterned : Hereditary Unpatterned where
  inner hd := (unpatterned_dictionary.mp hd).2
  refill hd _ hp hes := unpatterned_dictionary.mpr ⟨hp.trans (unpatterned_dictionary.mp hd).1, hes⟩

/-- Entries are looked up by their keywords. -/
theorem find?_isNamed (hes : AllUnpatterned es) :
    es.reverse.find? (·.head.isNamed k) = newest? k es := by
  refine List.find?_congr fun x hx => ?_
  rw [Heading.isNamed, (hes x (List.mem_reverse.mp hx)).head]
  rfl

/-! ### Merging one entry after the other -/

/-- What stands under the keyword of `e` when `e` was merged in; `old` is what did before. -/
def merged (old : Option Entry) (e : Entry) : Entry :=
  match old with
  | some old => if old.isDictionary && e.isDictionary then old.merge e else e
  | none => e

theorem merged_of_other {old : Option Entry} (h : e.isDictionary = true →
    ∀ k inner, old ≠ some (.dictionary k inner)) : merged old e = e := by
  unfold merged
  split
  · next o =>
    refine if_neg fun hdictionaries => ?_
    obtain ⟨ho, he⟩ := Bool.and_eq_true_iff.mp hdictionaries
    obtain ⟨k, inner, rfl⟩ := exists_of_isDictionary ho
    exact h he k inner rfl
  · rfl

/-- One entry changes only what is under its keyword. -/
theorem newest?_mergeOne (hown : AllUnpatterned own) :
    newest? k (mergeOne own e) =
      if e.keyword = k then some (merged (newest? k own) e) else newest? k own := by
  by_cases hmerges : e.isDictionary = true ∧
      ∃ k₀ inner, newest? e.keyword own = some (.dictionary k₀ inner)
  · -- The entry is merged into the newest one, and the others stay.
    obtain ⟨he, k₀, inner, hnewest⟩ := hmerges
    obtain ⟨h, es, rfl⟩ := exists_of_isDictionary he
    obtain ⟨before, after, rfl, hkeyword, hafter⟩ := exists_of_find?_reverse hnewest
    have hpattern : k₀.isPattern = false :=
      (hown _ (List.mem_append_right _ List.mem_cons_self)).head
    have hnamed : k₀.isNamed h.keyword = true := by
      rw [Heading.isNamed, hpattern]
      exact hkeyword
    have hunnamed : ∀ x ∈ after, x.head.isNamed h.keyword = false := fun x hx =>
      (congrArg (_ && ·) (hafter x hx)).trans (Bool.and_false _)
    rw [mergeOne_of_named hnamed hunnamed]
    have hmerged : (dictionary (mergedHead k₀ h) (mergeAll inner es)).keyword =
        (dictionary k₀ inner).keyword := keyword_mergedHead k₀ h
    split
    · next hk =>
      subst hk
      rw [hnewest]
      exact find?_reverse_append (hmerged ▸ hkeyword) hafter
    · next hk => exact newest?_replaced hmerged ((beq_iff_eq.mp hkeyword).trans_ne hk)
  · -- It takes the place of all of its keyword.
    have hother (he : e.isDictionary = true) (k₀ : Heading) (inner : List Entry) :
        newest? e.keyword own ≠ some (.dictionary k₀ inner) := fun h => hmerges ⟨he, k₀, inner, h⟩
    rw [mergeOne_of_other (by simpa only [find?_isNamed hown] using hother), newest?_concat]
    split
    · next hk =>
      subst hk
      rw [merged_of_other hother]
    · next hk => exact newest?_without_of_ne hk own

/-- What all entries change: each is merged into what was there under its keyword. -/
theorem newest?_mergeAll (hown : AllUnpatterned own) (hes : AllUnpatterned es)
    (hkeywords : (es.map keyword).Nodup) :
    newest? k (mergeAll own es) =
      (newest? k es).elim (newest? k own) fun e => some (merged (newest? k own) e) := by
  induction es generalizing own with
  | nil => rfl
  | cons e es ih =>
    obtain ⟨he, hes⟩ := List.forall_mem_cons.mp hes
    obtain ⟨hnew, hkeywords⟩ := List.nodup_cons.mp hkeywords
    rw [mergeAll, ih (hereditary_unpatterned.mergeOne hown he) hes hkeywords, newest?_cons hnew,
      newest?_mergeOne hown]
    split
    · next hk =>
      rw [← hk, newest?_eq_none.mpr hnew]
      rfl
    · rfl

/-! ### Their values -/

theorem isMap_value (e : Entry) : e.value.isMap = e.isDictionary := by
  cases e with
  | primitive h ts => exact Value.isMap_ofTokens ts
  | dictionary => rfl

/-- What the entry is merged into has the merged value, up to the order of keys. -/
def MergesDeeply (e : Entry) : Prop :=
  ∀ old : Option Entry, (∀ o ∈ old, o.Unpatterned) →
    (merged old e).value.Similar (old.elim e.value fun o => o.value.deepMerge e.value)

/-- The fields of a dictionary are merged if those of its entries are. -/
theorem fields_merged (hown : AllUnpatterned own) (hes : AllUnpatterned es)
    (hkeywords : (es.map keyword).Nodup) (h : ∀ e ∈ es, e.MergesDeeply) :
    (Value.map (fields [] (mergeAll own es))).Similar
      ((Value.map (fields [] own)).deepMerge (.map (fields [] es))) := by
  rw [Value.deepMerge]
  refine Value.similar_of_lookup (nodup_fields _)
    (Value.nodup_deepMerge (nodup_fields _) (nodup_fields _)) fun k => ?_
  rw [Value.lookup_deepMerge, lookup_fields, lookup_fields, lookup_fields,
    newest?_mergeAll hown hes hkeywords]
  cases he : newest? k es with
  | none =>
    cases newest? k own with
    | none => exact .none
    | some o => exact .some (.refl _)
  | some e =>
    have hold : ∀ o ∈ newest? k own, o.Unpatterned := fun o ho =>
      hown o (List.mem_reverse.mp (List.mem_of_find?_eq_some ho))
    have hsimilar := h e (List.mem_reverse.mp (List.mem_of_find?_eq_some he)) (newest? k own) hold
    revert hsimilar
    cases newest? k own with
    | none => exact .some
    | some o => exact .some

mutual

theorem Unpatterned.mergesDeeply : ∀ {e : Entry}, e.Unpatterned → e.Distinct → e.MergesDeeply
  | .primitive h ts, _, _ => by
    intro old _
    rw [merged_of_other (by simp [isDictionary])]
    cases old with
    | none => exact .refl _
    | some o =>
      rw [Option.elim_some, Value.deepMerge_of_not (.inr (isMap_value _))]
      exact .refl _
  | .dictionary h es, hplain, hdistinct => by
    intro old hold
    match old with
    | none => exact .refl _
    | some (.primitive k ts) =>
      rw [merged_of_other (by simp), Option.elim_some,
        Value.deepMerge_of_not (.inl (isMap_value _))]
      exact .refl _
    | some (.dictionary k own) =>
      obtain ⟨-, hown⟩ := unpatterned_dictionary.mp (hold _ rfl)
      obtain ⟨-, hes⟩ := unpatterned_dictionary.mp hplain
      obtain ⟨hkeywords, heach⟩ := distinct_dictionary.mp hdistinct
      exact fields_merged hown hes hkeywords (AllUnpatterned.mergesDeeply hes heach)

theorem AllUnpatterned.mergesDeeply : ∀ {es : List Entry}, AllUnpatterned es →
    (∀ e ∈ es, e.Distinct) → ∀ e ∈ es, e.MergesDeeply
  | [], _, _ => List.forall_mem_nil _
  | _ :: _, hplain, hdistinct => by
    obtain ⟨he, hes⟩ := List.forall_mem_cons.mp hplain
    obtain ⟨hd, hds⟩ := List.forall_mem_cons.mp hdistinct
    exact List.forall_mem_cons.mpr ⟨he.mergesDeeply hd, AllUnpatterned.mergesDeeply hes hds⟩

end

end Entry

namespace Workspace

open Entry

variable {ws : Workspace} {d other : Ref} {h k : Heading} {p q : Option Ref} {t u : Bool}
  {owned theirs : Multiset Ref} {es es' : List Entry}

theorem Houses.tree (hd : Houses ws d h p t owned es) (hn : (d ::ₘ owned).Nodup) :
    ws.tree d = .dictionary h es := by
  have howned := (Multiset.nodup_cons.mp hn).2
  obtain ⟨rs, hnode, hes⟩ := hd
  rw [Workspace.tree, Workspace.treeWithin, hnode]
  exact congrArg _ (hes.treeWithin (card_le_size hes.lt howned))

/-- **Merging is deep merging.** Two dictionaries that share nothing, neither with a pattern in it,
are merged: the first then has the value of the deep merge, up to the order of keys, and owns what
is in it. The second, in which no keyword may be shadowed, is as it was, and the first has nothing
of it. -/
theorem merge_deepMerge (hd : ws.Houses d h p t owned es)
    (hother : ws.Houses other k q u theirs es') (hapart : (d ::ₘ owned + other ::ₘ theirs).Nodup)
    (hes : AllUnpatterned es) (hes' : AllUnpatterned es') (hdistinct : AllDistinct es') :
    ∃ ws' owned', exec (merge d other) ws = (.ok (), ws') ∧
      (ws'.tree d).value.Similar ((ws.tree d).value.deepMerge (ws.tree other).value) ∧
      ws'.tree other = ws.tree other ∧ (∀ r ∈ other ::ₘ theirs, ws'.node r = ws.node r) ∧
      ws'.Houses d (mergedHead h k) p t owned' (mergeAll es es') ∧
      Disjoint (d ::ₘ owned') (other ::ₘ theirs) := by
  obtain ⟨⟨⟩, ws', owned', hx, hd', hturns⟩ := merge_makes hd hother hapart
  obtain ⟨hdn, hothern, hdisjoint⟩ := Multiset.nodup_add.mp hapart
  have hother' := hother.turns hturns hdisjoint
  refine ⟨ws', owned', hx, ?_, ?_, fun r hr => ?_, hd', hturns.disjoint hother.mem_lt hdisjoint⟩
  · rw [hd'.tree hturns.nodup, hd.tree hdn, hother.tree hothern]
    exact fields_merged hes hes' hdistinct.keywords (hes'.mergesDeeply hdistinct.each)
  · rw [hother'.tree hothern, hother.tree hothern]
  · exact hturns.node_eq r (Multiset.disjoint_right.mp hdisjoint hr) (hother.mem_lt r hr)

/-- Trees that are stored one after the other are apart. -/
theorem plant_apart {e e' : Entry} (he : e.Checked) (he' : e'.Checked) (ws : Workspace) :
    let r := ws.plant none e
    let r' := r.2.plant none e'
    ∃ owned theirs, Owns r'.2 r.1 owned e ∧ Owns r'.2 r'.1 theirs e' ∧ (owned + theirs).Nodup := by
  obtain ⟨owned, howns, hturns, -⟩ := plant_owns he ws none
  obtain ⟨theirs, howns', hturns', -⟩ := plant_owns he' (ws.plant none e).2 none
  refine ⟨owned, theirs, hturns'.owns howns (Multiset.zero_disjoint _), howns', ?_⟩
  have hframe := hturns'.frame howns.lt ((zero_add owned).symm ▸ hturns.nodup)
  exact add_comm theirs owned ▸ hframe.nodup

/-- A dictionary with one that is shadowed by another. -/
def shadowingDictionary : Entry :=
  .dictionary ⟨"d", false, 1, 6⟩
    [.dictionary ⟨"a", false, 1, 1⟩ [.primitive ⟨"x", false, 1, 1⟩ [⟨.number (.int 0), 1⟩]],
      .primitive ⟨"b", false, 2, 2⟩ [⟨.word "on", 2⟩],
      .dictionary ⟨"a", false, 3, 5⟩ [.primitive ⟨"x", false, 3, 3⟩ [⟨.number (.int 1), 3⟩],
        .dictionary ⟨"c", false, 4, 4⟩ []]]

/-- A dictionary to merge into it. -/
def incomingDictionary : Entry :=
  .dictionary ⟨"e", false, 1, 5⟩
    [.dictionary ⟨"a", false, 1, 3⟩ [.primitive ⟨"x", false, 2, 2⟩ [⟨.number (.int 2), 2⟩],
        .dictionary ⟨"c", false, 3, 3⟩ [.primitive ⟨"z", false, 3, 3⟩ [⟨.word "off", 3⟩]]],
      .dictionary ⟨"b", false, 4, 4⟩ []]

def storedFirst : Ref × Workspace := plant {} none shadowingDictionary

def storedNext : Ref × Workspace := storedFirst.2.plant none incomingDictionary

/-- The newest dictionary is the one merged into, and so is the one in it. -/
theorem merge_deepMerge_shadowed : ∃ ws',
    exec (merge storedFirst.1 storedNext.1) storedNext.2 = (.ok (), ws') ∧
      (ws'.tree storedFirst.1).value.Similar (.map [("a", .map [("x", .number (.int 2)),
        ("c", .map [("z", .text "off")])]), ("b", .map [])]) := by
  have hplain : shadowingDictionary.Unpatterned := by unfold Unpatterned; decide
  have hplain' : incomingDictionary.Unpatterned := by unfold Unpatterned; decide
  have hdistinct : incomingDictionary.Distinct := by unfold Distinct; decide
  obtain ⟨owned, theirs, howns, howns', hapart⟩ := plant_apart hplain.checked hplain'.checked {}
  have htree := howns.tree (Multiset.nodup_add.mp hapart).1
  have htree' := howns'.tree (Multiset.nodup_add.mp hapart).2.1
  obtain ⟨p, owned, -, rfl, hd⟩ := owns_dictionary.mp howns
  obtain ⟨q, theirs, -, rfl, hother⟩ := owns_dictionary.mp howns'
  obtain ⟨ws', owned', hx, hvalue, -⟩ := merge_deepMerge hd hother hapart
    (unpatterned_dictionary.mp hplain).2 (unpatterned_dictionary.mp hplain').2
    (distinct_dictionary.mp hdistinct)
  refine ⟨ws', hx, ?_⟩
  rw [htree, htree'] at hvalue
  exact hvalue

end Workspace

end CaseDict
