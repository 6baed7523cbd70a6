import CaseDict.Lookup
import CaseDict.Placement
import CaseDict.Removal
/-! # Properties that dictionaries inherit

A property of entries is hereditary if a dictionary has it as far as its heading, the lines not
counted, and the entries in it have it. Removing, merging, placing and looking up entries keep such
a property. -/

namespace CaseDict

namespace Entry

/-- A property of entries at levels of nesting: a dictionary has it as far as its heading and the
entries in it have it one level further in. -/
structure Leveled (P : Nat → Entry → Prop) : Prop where
  inner {n : Nat} {h : Heading} {es : List Entry} (hd : P n (.dictionary h es)) :
    ∀ x ∈ es, P (n + 1) x
  refill {n : Nat} {h h' : Heading} {es es' : List Entry} (hd : P n (.dictionary h es))
    (hk : h'.keyword = h.keyword) (hp : h'.isPattern = h.isPattern)
    (hs : h'.startLine = h.startLine) (hes : ∀ x ∈ es', P (n + 1) x) : P n (.dictionary h' es')

/-- A dictionary has the property as far as its heading and the entries in it have it. -/
structure Hereditary (P : Entry → Prop) : Prop where
  inner {h : Heading} {es : List Entry} (hd : P (.dictionary h es)) : ∀ x ∈ es, P x
  refill {h h' : Heading} {es es' : List Entry} (hd : P (.dictionary h es))
    (hk : h'.keyword = h.keyword) (hp : h'.isPattern = h.isPattern) (hes : ∀ x ∈ es', P x) :
    P (.dictionary h' es')

variable {P : Entry → Prop} {es es' : List Entry}

theorem forall_mem_filter (h : ∀ x ∈ es, P x) (p : Entry → Bool) : ∀ x ∈ es.filter p, P x :=
  fun x hx => h x (List.mem_filter.mp hx).1

theorem forall_mem_applyAll (h : ∀ x ∈ es, P x) (rs : List Removal) :
    ∀ x ∈ Removal.applyAll rs es, P x := by
  induction rs generalizing es with
  | nil => exact h
  | cons r rs ih => exact ih (forall_mem_filter h _)

theorem forall_mem_concat {e : Entry} (h : ∀ x ∈ es, P x) (he : P e) : ∀ x ∈ es ++ [e], P x :=
  List.forall_mem_append.mpr ⟨h, List.forall_mem_singleton.mpr he⟩

theorem forall_mem_replace {e : Entry} (h : ∀ x ∈ es, P x) (he : P e) (keyword : String) :
    ∀ x ∈ without keyword es ++ [e], P x := forall_mem_concat (forall_mem_filter h _) he

/-- One entry was changed, and the others stay. -/
theorem changeLast_eq_some {change : Entry → Option Entry} (h : changeLast change es = some es') :
    ∃ before old new after, es = before ++ old :: after ∧ change old = some new ∧
      es' = before ++ new :: after := by
  induction es generalizing es' with
  | nil => contradiction
  | cons e es ih =>
    unfold changeLast at h
    split at h
    · next rest hr =>
      cases h
      obtain ⟨before, old, new, after, rfl, hc, rfl⟩ := ih hr
      exact ⟨e :: before, old, new, after, rfl, hc, rfl⟩
    · obtain ⟨new, hc, rfl⟩ := Option.map_eq_some_iff.mp h
      exact ⟨[], e, new, es, rfl, hc, rfl⟩

theorem forall_mem_changeLast {change : Entry → Option Entry} (h : ∀ x ∈ es, P x)
    (hc : ∀ e e', P e → change e = some e' → P e') (he : changeLast change es = some es') :
    ∀ x ∈ es', P x := by
  obtain ⟨before, old, new, after, rfl, hnew, rfl⟩ := changeLast_eq_some he
  obtain ⟨hbefore, h⟩ := List.forall_mem_append.mp h
  obtain ⟨hold, hafter⟩ := List.forall_mem_cons.mp h
  exact List.forall_mem_append.mpr ⟨hbefore, List.forall_mem_cons.mpr ⟨hc _ _ hold hnew, hafter⟩⟩

/-- An entry is merged into one of its keyword, if there is any. -/
theorem mergeNewest_cases (e : Entry) (es : List Entry) : mergeNewest e es = es ∨
    ∃ before old after, es = before ++ old :: after ∧ old.keyword = e.keyword ∧
      mergeNewest e es = before ++ old.merge e :: after := by
  unfold mergeNewest
  cases hc : changeLast (fun old => if old.keyword = e.keyword then some (old.merge e) else none)
    es with
  | none => exact .inl rfl
  | some es' =>
    obtain ⟨before, old, new, after, rfl, hnew, rfl⟩ := changeLast_eq_some hc
    obtain ⟨hk, hnew⟩ := Option.ite_none_right_eq_some.mp hnew
    exact .inr ⟨before, old, after, rfl, hk, Option.some.inj hnew ▸ rfl⟩

namespace Leveled

variable {Q : Nat → Entry → Prop}

theorem mergedHead (hQ : Leveled Q) {n : Nat} {h h' : Heading} (hd : Q n (.dictionary h es))
    (hes : ∀ x ∈ es', Q (n + 1) x) : Q n (.dictionary (mergedHead h h') es') := by
  unfold Entry.mergedHead
  split <;> exact hQ.refill hd rfl rfl rfl hes

mutual

theorem mergeAll (hQ : Leveled Q) {n : Nat} : ∀ {own es : List Entry}, (∀ x ∈ own, Q n x) →
    (∀ x ∈ es, Q n x) → ∀ x ∈ mergeAll own es, Q n x
  | _, [], h, _ => h
  | _, _ :: _, h, he => by
    obtain ⟨he, hes⟩ := List.forall_mem_cons.mp he
    rw [Entry.mergeAll]
    exact mergeAll hQ (mergeOne hQ h he) hes

theorem mergeOne (hQ : Leveled Q) {n : Nat} : ∀ {own : List Entry} {e : Entry},
    (∀ x ∈ own, Q n x) → Q n e → ∀ x ∈ mergeOne own e, Q n x
  | _, .primitive .., h, he => forall_mem_replace h he _
  | own, .dictionary k es, h, he => by
    have hr : ∀ x ∈ without k.keyword own ++ [.dictionary k es], Q n x := forall_mem_replace h he _
    unfold Entry.mergeOne
    dsimp only
    split
    · cases hc : Entry.changeLast _ own with
      | none => exact hr
      | some merged =>
        refine forall_mem_changeLast h (fun e e' hold hm => ?_) hc
        split at hm
        · obtain ⟨inner, hi, rfl⟩ := Option.map_eq_some_iff.mp hm
          cases e with
          | primitive => contradiction
          | dictionary k' es' =>
            obtain rfl := Option.some.inj hi
            exact hQ.mergedHead hold (mergeAll hQ (hQ.inner hold) (hQ.inner he))
        · contradiction
    · exact hr

end

variable (hQ : Leveled Q) {n : Nat}

include hQ

theorem merge {own other : Entry} (h : Q n own) (h' : Q n other) : Q n (merge own other) := by
  unfold Entry.merge
  split
  · exact hQ.mergedHead h (hQ.mergeAll (hQ.inner h) (hQ.inner h'))
  · exact h

theorem mergeNewest {e : Entry} (h : ∀ x ∈ es, Q n x) (he : Q n e) :
    ∀ x ∈ mergeNewest e es, Q n x := by
  rcases mergeNewest_cases e es with hsame | ⟨before, old, after, rfl, -, hmerged⟩
  · exact hsame.symm ▸ h
  · rw [hmerged]
    obtain ⟨hbefore, h⟩ := List.forall_mem_append.mp h
    obtain ⟨hold, hafter⟩ := List.forall_mem_cons.mp h
    exact List.forall_mem_append.mpr
      ⟨hbefore, List.forall_mem_cons.mpr ⟨hQ.merge hold he, hafter⟩⟩

/-- What a dictionary holds after an entry was placed. -/
theorem place {mode : InputMode} {e : Entry} {p : Placed} (h : ∀ x ∈ es, Q n x) (he : Q n e)
    (hp : e.place mode es = .ok p) : ∀ x ∈ p.entries, Q n x := by
  unfold Entry.place at hp
  split at hp
  · cases hp
    exact forall_mem_concat h he
  · split at hp
    · cases hp
      exact forall_mem_concat h he
    · cases hp
      exact hQ.mergeNewest h he
    · cases hp
      exact forall_mem_replace h he _
    · cases hp
      exact h
    · contradiction

end Leveled

namespace Hereditary

variable (hP : Hereditary P)

include hP

/-- The property at every level. -/
theorem leveled : Leveled fun _ => P where
  inner := hP.inner
  refill hd hk hp _ := hP.refill hd hk hp

theorem mergeAll {own : List Entry} (h : ∀ x ∈ own, P x) (he : ∀ x ∈ es, P x) :
    ∀ x ∈ mergeAll own es, P x := hP.leveled.mergeAll (n := 0) h he

theorem mergeOne {own : List Entry} {e : Entry} (h : ∀ x ∈ own, P x) (he : P e) :
    ∀ x ∈ mergeOne own e, P x := hP.leveled.mergeOne (n := 0) h he

theorem merge {own other : Entry} (h : P own) (h' : P other) : P (merge own other) :=
  hP.leveled.merge (n := 0) h h'

theorem mergeNewest {e : Entry} (h : ∀ x ∈ es, P x) (he : P e) :
    ∀ x ∈ mergeNewest e es, P x := hP.leveled.mergeNewest (n := 0) h he

/-- What a dictionary holds after an entry was placed. -/
theorem place {mode : InputMode} {e : Entry} {p : Placed} (h : ∀ x ∈ es, P x) (he : P e)
    (hp : e.place mode es = .ok p) : ∀ x ∈ p.entries, P x := hP.leveled.place (n := 0) h he hp

end Hereditary

end Entry

namespace Lookup

variable {P : Entry → Prop} {name : String} {e : Entry} {es : List Entry}
  {frames : List (Frame Entry)}

theorem mem_of_find (h : find Entry.inspection name es = some e) : e ∈ es := by
  unfold find at h
  split at h
  · next hf =>
    obtain rfl := Option.some.inj h
    exact List.mem_reverse.mp (List.mem_of_find?_eq_some hf)
  · exact List.mem_reverse.mp (List.mem_of_find?_eq_some h)

theorem findOutward_has (hf : ∀ f ∈ frames, ∀ x ∈ f.entries, P x)
    (h : findOutward Entry.inspection name frames = some e) : P e := by
  obtain ⟨f, hmem, hfind⟩ := List.exists_of_findSome?_eq_some h
  exact hf f hmem e (mem_of_find hfind)

theorem outward_subset : outward frames ⊆ frames := fun _ hf =>
  (List.dropWhile_suffix _).subset (List.mem_of_mem_drop ((List.dropWhile_suffix _).subset hf))

variable (hP : ∀ {h : Heading} {es : List Entry}, P (.dictionary h es) → ∀ x ∈ es, P x)

include hP

theorem descend_has {path : List String} {e' : Entry} (he : P e)
    (h : descend Entry.inspection e path = some e') : P e' := by
  induction path generalizing e with
  | nil => exact Option.some.inj h ▸ he
  | cons name path ih =>
    simp only [descend, Option.bind_eq_bind, Option.bind_eq_some_iff] at h
    obtain ⟨es, hes, x, hx, h⟩ := h
    cases e with
    | primitive => contradiction
    | dictionary k es' =>
      obtain rfl := Option.some.inj hes
      exact ih (hP he x (mem_of_find hx)) h

theorem follow_has {everywhere : Bool} {path : List String}
    (hf : ∀ f ∈ frames, ∀ x ∈ f.entries, P x)
    (h : follow Entry.inspection frames everywhere path = some e) : P e := by
  induction path generalizing frames everywhere with
  | nil => contradiction
  | cons name path ih =>
    unfold follow at h
    split at h
    · exact ih (fun f hm => hf f (outward_subset hm)) h
    · split at h
      · contradiction
      · next f _ =>
        split at h
        · obtain ⟨first, hfirst, h⟩ := Option.bind_eq_some_iff.mp h
          exact descend_has hP (findOutward_has hf hfirst) h
        · obtain ⟨first, hfirst, h⟩ := Option.bind_eq_some_iff.mp h
          exact descend_has hP (hf f (by simp) first (mem_of_find hfirst)) h

/-- What a scoped name denotes has the property if all entries in the frames have it. -/
theorem scopedEntry_has (hf : ∀ f ∈ frames, ∀ x ∈ f.entries, P x)
    (h : scopedEntry Entry.inspection frames name = some e) : P e := by
  unfold scopedEntry at h
  split at h
  · refine follow_has hP (fun f hm => hf f ?_) h
    exact List.mem_of_getLast? (Option.mem_toList.mp hm)
  · exact follow_has hP hf h

end Lookup

end CaseDict

/-! ## Entries that can be copied

An entry can be copied if all patterns in it are regular expressions, which is a property that
dictionaries inherit. -/

namespace CaseDict

namespace Heading

theorem failure?_eq_none {h : Heading} :
    h.failure? = none ↔ (h.isPattern = true → Pattern.fault? h.keyword = none) := by
  unfold failure?
  split
  · next hp => simp [hp]
  · next hp => simp [hp]

theorem checked_eq_ok {h h' : Heading} : h.checked = .ok h' ↔ h.failure? = none ∧ h' = h := by
  unfold checked
  split
  · next hf => simp [hf, eq_comm]
  · next f hf => simp [hf]

end Heading

namespace Entry

/-- All patterns in the entry are regular expressions, so it can be copied. -/
def Checked (e : Entry) : Prop := ∀ h ∈ e.headings, h.failure? = none

/-- All patterns in the entries are regular expressions. -/
def AllChecked (es : List Entry) : Prop := ∀ e ∈ es, e.Checked

theorem headings_dictionary (h : Heading) (es : List Entry) :
    (dictionary h es).headings = h :: headingsOf es := rfl

theorem mem_headingsOf {h : Heading} {es : List Entry} :
    h ∈ headingsOf es ↔ ∃ e ∈ es, h ∈ e.headings := by
  induction es with
  | nil => simp [headingsOf]
  | cons e es ih => simp [headingsOf, ih]

theorem checked_primitive {h : Heading} {ts : List Token} :
    (primitive h ts).Checked ↔ h.failure? = none := by simp [Checked, headings]

theorem checked_dictionary {h : Heading} {es : List Entry} :
    (dictionary h es).Checked ↔ h.failure? = none ∧ AllChecked es := by
  simp only [Checked, headings_dictionary, List.mem_cons, forall_eq_or_imp, AllChecked,
    mem_headingsOf]
  exact and_congr_right fun _ =>
    ⟨fun h e he k hk => h k ⟨e, he, hk⟩, fun h k ⟨e, he, hk⟩ => h e he k hk⟩

theorem copy_eq_ok {e e' : Entry} : e.copy = .ok e' ↔ e.Checked ∧ e' = e := by
  have h : e.headings.findSome? Heading.failure? = none ↔ e.Checked := List.findSome?_eq_none_iff
  unfold copy
  split
  · next f hf => simp [← h, hf]
  · next hf => simp [← h, hf, eq_comm]

theorem Checked.withHead {e : Entry} (he : e.Checked) {startLine endLine : Int} :
    (e.withHead { e.head with startLine, endLine }).Checked := by
  cases e with
  | primitive h ts =>
    rw [checked_primitive, Heading.failure?_eq_none] at he
    exact checked_primitive.mpr (Heading.failure?_eq_none.mpr he)
  | dictionary h es =>
    rw [checked_dictionary, Heading.failure?_eq_none] at he
    exact checked_dictionary.mpr ⟨Heading.failure?_eq_none.mpr he.1, he.2⟩

theorem failure?_mergedHead (h h' : Heading) : (mergedHead h h').failure? = h.failure? := by
  unfold mergedHead
  split <;> rfl

theorem checked_hereditary : Hereditary Checked where
  inner hd := (checked_dictionary.mp hd).2
  refill {h h'} _ _ hd hk hp hes := by
    have hf : h'.failure? = none := by
      rw [Heading.failure?_eq_none, hk, hp, ← Heading.failure?_eq_none]
      exact (checked_dictionary.mp hd).1
    exact checked_dictionary.mpr ⟨hf, hes⟩

end Entry

end CaseDict
