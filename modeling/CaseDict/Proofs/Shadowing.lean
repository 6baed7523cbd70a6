import CaseDict.Placement
import CaseDict.Value
import Mathlib.Data.List.Induction
import Mathlib.Data.List.Nodup
/-! # Shadowed entries

Of several entries with one keyword the newest shadows the others: it stands last, and only its
value counts. So a dictionary says the same without the shadowed ones (`Entry.unshadowed`), up to
the order of keys (`Entry.value_similar`). Placing entries so that each takes the place of those
with its keyword leaves the entries that are not shadowed (`Entry.unshadowedAll_append`). -/

namespace CaseDict

namespace Entry

mutual

/-- The entry without the shadowed ones in it, at any depth. -/
def unshadowed : Entry → Entry
  | primitive h ts => primitive h ts
  | dictionary h es => dictionary h (unshadowedAll es)

/-- The newest entry of each keyword. -/
def unshadowedAll : List Entry → List Entry
  | [] => []
  | e :: es =>
    if e.keyword ∈ es.map keyword then unshadowedAll es else e.unshadowed :: unshadowedAll es

end

/-- An entry in the place of all that have its keyword. -/
def replace (es : List Entry) (e : Entry) : List Entry := without e.keyword es ++ [e]

variable {es own : List Entry} {e : Entry} {k : String}

@[simp] theorem head_unshadowed (e : Entry) : e.unshadowed.head = e.head := by
  cases e <;> rfl

@[simp] theorem keyword_unshadowed (e : Entry) : e.unshadowed.keyword = e.keyword :=
  congrArg Heading.keyword (head_unshadowed e)

/-! ### Replacing one after the other -/

theorem without_without (k : String) (es : List Entry) :
    without k (without k es) = without k es := by simp [without]

theorem without_comm (k k' : String) (es : List Entry) :
    without k (without k' es) = without k' (without k es) := List.filter_comm _ _ es

theorem without_cons_of_eq (h : e.keyword = k) : without k (e :: es) = without k es :=
  List.filter_cons_of_neg (by simp [h])

theorem without_cons_of_ne (h : e.keyword ≠ k) : without k (e :: es) = e :: without k es :=
  List.filter_cons_of_pos (by simp [h])

theorem without_replace_of_eq (h : e.keyword = k) : without k (replace es e) = without k es := by
  rw [replace, h, without, List.filter_append, ← without, ← without, without_without,
    without_cons_of_eq h]
  exact List.append_nil _

theorem without_replace_of_ne (h : e.keyword ≠ k) :
    without k (replace es e) = replace (without k es) e := by
  rw [replace, replace, without_comm, without, List.filter_append, ← without, ← without,
    without_cons_of_ne h]
  rfl

theorem without_foldl_replace (k : String) (es own : List Entry) :
    without k (es.foldl replace own) = (without k es).foldl replace (without k own) := by
  induction es generalizing own with
  | nil => rfl
  | cons e es ih =>
    rw [List.foldl_cons, ih]
    by_cases h : e.keyword = k
    · rw [without_replace_of_eq h, without_cons_of_eq h]
    · rw [without_replace_of_ne h, without_cons_of_ne h, List.foldl_cons]

/-! ### The newest entries -/

theorem mem_keywords_unshadowedAll :
    k ∈ (unshadowedAll es).map keyword ↔ k ∈ es.map keyword := by
  induction es with
  | nil => rfl
  | cons e es ih =>
    rw [unshadowedAll, List.map_cons, List.mem_cons]
    split
    · next h => rw [ih, or_iff_right_of_imp fun hk => hk ▸ h]
    · rw [List.map_cons, List.mem_cons, ih, keyword_unshadowed]

theorem nodup_unshadowedAll (es : List Entry) : ((unshadowedAll es).map keyword).Nodup := by
  induction es with
  | nil => exact List.nodup_nil
  | cons e es ih =>
    rw [unshadowedAll]
    split
    · exact ih
    · next h =>
      rw [List.map_cons, List.nodup_cons, keyword_unshadowed, mem_keywords_unshadowedAll]
      exact ⟨h, ih⟩

/-- Entries are removed by keyword before or after the shadowed ones. -/
theorem unshadowedAll_filter (es : List Entry) (keep : String → Bool) :
    unshadowedAll (es.filter fun e => keep e.keyword) =
      (unshadowedAll es).filter fun e => keep e.keyword := by
  induction es with
  | nil => rfl
  | cons e es ih =>
    by_cases hk : keep e.keyword = true
    · have hmem : e.keyword ∈ (es.filter fun e => keep e.keyword).map keyword ↔
          e.keyword ∈ es.map keyword := by
        simp only [List.mem_map, List.mem_filter]
        exact ⟨fun ⟨x, hx, hxe⟩ => ⟨x, hx.1, hxe⟩, fun ⟨x, hx, hxe⟩ => ⟨x, ⟨hx, hxe ▸ hk⟩, hxe⟩⟩
      rw [List.filter_cons, if_pos hk, unshadowedAll, unshadowedAll, ih]
      simp only [hmem]
      split
      · rfl
      · rw [List.filter_cons, keyword_unshadowed, if_pos hk]
    · rw [List.filter_cons, if_neg hk, ih, unshadowedAll]
      split
      · rfl
      · rw [List.filter_cons, keyword_unshadowed, if_neg hk]

/-- The last entry is not shadowed and shadows those of its keyword. -/
theorem unshadowedAll_concat (es : List Entry) (e : Entry) :
    unshadowedAll (es ++ [e]) = replace (unshadowedAll es) e.unshadowed := by
  rw [replace, keyword_unshadowed]
  induction es with
  | nil => rfl
  | cons x es ih =>
    have hx : x.unshadowed.keyword = x.keyword := keyword_unshadowed x
    have hmem : x.keyword ∈ (es ++ [e]).map keyword ↔
        x.keyword ∈ es.map keyword ∨ x.keyword = e.keyword := by simp
    rw [List.cons_append, unshadowedAll, unshadowedAll, ih]
    simp only [hmem]
    by_cases hk : x.keyword = e.keyword
    · rw [if_pos (.inr hk)]
      split
      · rfl
      · rw [without_cons_of_eq (hx.trans hk)]
    · simp only [hk, or_false]
      split
      · rfl
      · rw [without_cons_of_ne (hx ▸ hk), List.cons_append]

theorem foldl_unshadowedAll (es own : List Entry) :
    (unshadowedAll es).foldl replace own = (es.map unshadowed).foldl replace own := by
  induction es using List.reverseRecOn generalizing own with
  | nil => rfl
  | append_singleton es e ih =>
    rw [unshadowedAll_concat, List.map_append, List.foldl_append, ← ih, replace, List.foldl_append]
    simp only [List.map_cons, List.map_nil, List.foldl_cons, List.foldl_nil, replace]
    rw [without_foldl_replace, without_foldl_replace, without_without]

/-- Placing the newest entries leaves the newest ones of all. -/
theorem unshadowedAll_append (own es : List Entry) :
    unshadowedAll (own ++ es) = (unshadowedAll es).foldl replace (unshadowedAll own) := by
  rw [foldl_unshadowedAll]
  induction es using List.reverseRecOn with
  | nil => rw [List.append_nil]; rfl
  | append_singleton es e ih =>
    rw [← List.append_assoc, unshadowedAll_concat, ih, List.map_append, List.foldl_append]
    rfl

theorem newest?_concat (k : String) (es : List Entry) (e : Entry) :
    newest? k (es ++ [e]) = if e.keyword = k then some e else newest? k es := by
  rw [newest?, List.reverse_append, List.reverse_singleton, List.singleton_append,
    List.find?_cons]
  split
  · next h => rw [if_pos (beq_iff_eq.mp h)]
  · next h =>
    rw [if_neg (beq_eq_false_iff_ne.mp h)]
    rfl

theorem newest?_without_of_ne {k' : String} (h : k' ≠ k) (es : List Entry) :
    newest? k (without k' es) = newest? k es := by
  rw [newest?, newest?, without, ← List.filter_reverse, List.find?_filter]
  congr 1
  funext x
  by_cases hx : x.keyword = k
  · simp [hx, h.symm]
  · simp [hx]

/-- The newest entry of a keyword is not shadowed. -/
theorem newest?_unshadowedAll (k : String) (es : List Entry) :
    newest? k (unshadowedAll es) = (newest? k es).map unshadowed := by
  induction es using List.reverseRecOn with
  | nil => rfl
  | append_singleton es e ih =>
    rw [unshadowedAll_concat, replace, newest?_concat, newest?_concat, keyword_unshadowed]
    split
    · rfl
    · next h => rw [newest?_without_of_ne h, ih]

end Entry

/-! ### Values -/

namespace Value

mutual

/-- The values are the same up to the order of keys, at any depth. -/
inductive Similar : Value → Value → Prop
  | refl (v : Value) : Similar v v
  | map {fs gs hs : List (String × Value)} (hp : fs.Perm gs) (h : SimilarFields gs hs) :
      Similar (.map fs) (.map hs)

/-- The keys are the same, and the values up to the order of keys. -/
inductive SimilarFields : List (String × Value) → List (String × Value) → Prop
  | nil : SimilarFields [] []
  | cons {k : String} {v w : Value} {fs gs : List (String × Value)} (h : Similar v w)
      (hs : SimilarFields fs gs) : SimilarFields ((k, v) :: fs) ((k, w) :: gs)

end

variable {k : String} {v w : Value} {fs gs : List (String × Value)}

theorem SimilarFields.filter (h : SimilarFields fs gs) (keep : String → Bool) :
    SimilarFields (fs.filter (keep ·.1)) (gs.filter (keep ·.1)) := by
  induction fs generalizing gs with
  | nil =>
    cases h
    exact .nil
  | cons f fs ih =>
    cases h with
    | cons hv hs =>
      rw [List.filter_cons, List.filter_cons]
      split
      · exact .cons hv (ih hs)
      · exact ih hs

theorem SimilarFields.concat (h : SimilarFields fs gs) (hv : v.Similar w) :
    SimilarFields (fs ++ [(k, v)]) (gs ++ [(k, w)]) := by
  induction fs generalizing gs with
  | nil =>
    cases h
    exact .cons hv .nil
  | cons f fs ih =>
    cases h with
    | cons hf hs => exact .cons hf (ih hs)

theorem filter_of_notMem (h : k ∉ fs.map Prod.fst) : fs.filter (·.1 != k) = fs := by
  refine List.filter_eq_self.mpr fun f hf => ?_
  have hne : f.1 ≠ k := fun he => h (he ▸ List.mem_map_of_mem hf)
  simpa using hne

theorem setField_of_notMem (h : k ∉ fs.map Prod.fst) : setField k v fs = fs ++ [(k, v)] := by
  induction fs with
  | nil => rfl
  | cons f fs ih =>
    rw [List.map_cons, List.mem_cons, not_or] at h
    rw [setField, if_neg (Ne.symm h.1), ih h.2, List.cons_append]

/-- A field that is set is the last one, up to the order. -/
theorem setField_perm (h : (fs.map Prod.fst).Nodup) :
    (setField k v fs).Perm (fs.filter (·.1 != k) ++ [(k, v)]) := by
  induction fs with
  | nil => exact .refl _
  | cons f fs ih =>
    obtain ⟨k', w⟩ := f
    obtain ⟨hk, hfs⟩ := List.nodup_cons.mp h
    by_cases hkk : k' = k
    · subst hkk
      rw [setField, if_pos rfl, List.filter_cons_of_neg (by simp), filter_of_notMem hk]
      exact (List.perm_append_singleton _ _).symm
    · rw [setField, if_neg hkk, List.filter_cons_of_pos (by simpa using hkk)]
      exact (ih hfs).cons _

theorem nodup_setField (h : (fs.map Prod.fst).Nodup) :
    ((setField k v fs).map Prod.fst).Nodup := by
  rw [((setField_perm h).map Prod.fst).nodup_iff, List.map_append, List.nodup_append]
  refine ⟨h.sublist (List.filter_sublist.map _), by simp, fun k' hk' k'' hk'' => ?_⟩
  obtain ⟨f, hf, rfl⟩ := List.mem_map.mp hk'
  obtain rfl : k'' = k := by simpa using hk''
  simpa using (List.mem_filter.mp hf).2

end Value

namespace Entry

variable {es : List Entry}

/-- The field that an entry gives. -/
def field (e : Entry) : String × Value := (e.keyword, e.value)

theorem fields_concat (fs : List (String × Value)) (es : List Entry) (e : Entry) :
    fields fs (es ++ [e]) = Value.setField e.keyword e.value (fields fs es) := by
  induction es generalizing fs with
  | nil => rfl
  | cons x es ih => exact ih _

theorem nodup_fields (es : List Entry) : ((fields [] es).map Prod.fst).Nodup := by
  induction es using List.reverseRecOn with
  | nil => exact List.nodup_nil
  | append_singleton es e ih =>
    rw [fields_concat]
    exact Value.nodup_setField ih

theorem fields_of_nodup (h : (es.map keyword).Nodup) : fields [] es = es.map field := by
  induction es using List.reverseRecOn with
  | nil => rfl
  | append_singleton es e ih =>
    rw [List.map_append, List.nodup_append] at h
    have hkeys : (es.map field).map Prod.fst = es.map keyword := by rw [List.map_map]; rfl
    rw [fields_concat, ih h.1, Value.setField_of_notMem, List.map_append]
    · rfl
    · rw [hkeys]
      exact fun hk => h.2.2 _ hk _ (List.mem_singleton_self _) rfl

/-- The fields of a dictionary are those of its newest entries, up to the order. -/
theorem fields_similar (h : ∀ e ∈ es, e.value.Similar e.unshadowed.value) :
    ∃ gs, (fields [] es).Perm gs ∧ Value.SimilarFields gs ((unshadowedAll es).map field) := by
  induction es using List.reverseRecOn with
  | nil => exact ⟨[], .refl _, .nil⟩
  | append_singleton es e ih =>
    obtain ⟨hes, he⟩ := List.forall_mem_append.mp h
    obtain ⟨gs, hperm, hgs⟩ := ih hes
    refine ⟨gs.filter (·.1 != e.keyword) ++ [(e.keyword, e.value)], ?_, ?_⟩
    · rw [fields_concat]
      exact (Value.setField_perm (nodup_fields es)).trans ((hperm.filter _).append_right _)
    · have hfield : e.unshadowed.field = (e.keyword, e.unshadowed.value) := by
        rw [field, keyword_unshadowed]
      rw [unshadowedAll_concat, replace, keyword_unshadowed, List.map_append, List.map_singleton,
        hfield, without]
      have hfilter := hgs.filter (· != e.keyword)
      rw [List.filter_map] at hfilter
      exact hfilter.concat (he e (List.mem_singleton_self e))

mutual

/-- An entry has the same value without the shadowed ones in it, up to the order of keys. -/
theorem value_similar : ∀ e : Entry, e.value.Similar e.unshadowed.value
  | .primitive .. => .refl _
  | .dictionary _ es => by
    obtain ⟨gs, hperm, hgs⟩ := fields_similar (values_similar es)
    rw [← fields_of_nodup (nodup_unshadowedAll es)] at hgs
    exact .map hperm hgs

theorem values_similar : ∀ es : List Entry, ∀ e ∈ es, e.value.Similar e.unshadowed.value
  | [] => List.forall_mem_nil _
  | e :: es => List.forall_mem_cons.mpr ⟨value_similar e, values_similar es⟩

end

end Entry

end CaseDict
