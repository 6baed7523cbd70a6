import CaseDict.Proofs.Abutting
import CaseDict.Proofs.Appending
import CaseDict.Proofs.DeepMerge
import CaseDict.Proofs.Making
import CaseDict.Proofs.Unlined
/-! # Merging at one level and at the next

In the mode `merge` a statement is merged into the entry of its keyword, and a dictionary with all
that is in it into the dictionary of its keyword. The two agree (`Entry.putIn_merge`) unless the
entry of the keyword is a dictionary whose keyword is a pattern: statements are compared by the text
of their keywords, but what is in a dictionary is merged into what has a plain keyword only. So
`w { A } w { B }` is read as `w { A B }` is, up to lines, if no dictionary of `B` meets a pattern
in `A` (`Reader.merge_levels`). -/

namespace CaseDict

open Entry

/-! ### Statements on other lines -/

namespace Grammar

variable {limit : Int} {n : Nat} {ts us : List Token}

theorem heading?_congr {t t' : Token} {line : Int} {h : Heading} (ht : t'.symbol = t.symbol)
    (hk : heading? t line = some h) (line' : Int) :
    ∃ h', heading? t' line' = some h' ∧ h'.unlined = h.unlined := by
  unfold heading? at hk ⊢
  rw [ht]
  split at hk
  · cases hk
    exact ⟨_, rfl, rfl⟩
  · split at hk
    · next hf =>
      cases hk
      exact ⟨_, if_pos hf, rfl⟩
    · contradiction
  · contradiction

mutual

theorem Statement.congr {n : Nat} : ∀ {ts us : List Token} {e : Entry}, Statement limit n ts e →
    us.map Token.symbol = ts.map Token.symbol → ∃ e', Statement limit n us e' ∧ e'.unlined = e.unlined
  | _, _, _, .bare hk, hu => by
    obtain ⟨k', us, rfl, hk', hu⟩ := List.map_eq_cons_iff.mp hu
    obtain ⟨⟨_, line'⟩, us, rfl, rfl, hnil⟩ := List.map_eq_cons_iff.mp hu
    obtain rfl := List.map_eq_nil_iff.mp hnil
    obtain ⟨h', hh', hh⟩ := heading?_congr hk' hk line'
    exact ⟨_, .bare hh', by rw [unlined, unlined, hh]⟩
  | _, _, _, .value hk hvs, hu => by
    rw [List.cons_append, List.map_cons, List.map_append] at hu
    obtain ⟨k', us, rfl, hk', hu⟩ := List.map_eq_cons_iff.mp hu
    obtain ⟨vs', us, rfl, hvs', hu⟩ := List.map_eq_append_iff.mp hu
    obtain ⟨⟨_, line'⟩, us, rfl, rfl, hnil⟩ := List.map_eq_cons_iff.mp hu
    obtain rfl := List.map_eq_nil_iff.mp hnil
    obtain ⟨h', hh', hh⟩ := heading?_congr hk' hk line'
    exact ⟨_, .value hh' (hvs.congr hvs'), by rw [unlined, unlined, hh, map_unlined hvs']⟩
  | _, _, _, .dictionary hk hn hts, hu => by
    rw [List.cons_append, List.cons_append, List.map_cons, List.map_cons, List.map_append] at hu
    obtain ⟨k', us, rfl, hk', hu⟩ := List.map_eq_cons_iff.mp hu
    obtain ⟨⟨_, line⟩, us, rfl, rfl, hrest⟩ := List.map_eq_cons_iff.mp hu
    obtain ⟨inner, us, rfl, hinner, hrest⟩ := List.map_eq_append_iff.mp hrest
    obtain ⟨⟨_, line'⟩, us, rfl, rfl, hnil⟩ := List.map_eq_cons_iff.mp hrest
    obtain rfl := List.map_eq_nil_iff.mp hnil
    obtain ⟨h', hh', hh⟩ := heading?_congr hk' hk line'
    obtain ⟨es', hes', hsame⟩ := hts.congr hinner
    exact ⟨_, .dictionary hh' hn hes', by rw [unlined, unlined, hh, hsame]⟩

/-- What a body stands for does not depend on lines, up to lines. -/
theorem Body.congr {n : Nat} : ∀ {ts us : List Token} {es : List Entry}, Body limit n ts es →
    us.map Token.symbol = ts.map Token.symbol →
      ∃ es', Body limit n us es' ∧ unlinedAll es' = unlinedAll es
  | _, us, _, .nil, hu => by
    obtain rfl := List.map_eq_nil_iff.mp hu
    exact ⟨[], .nil, rfl⟩
  | _, _, _, .spare hts, hu => by
    obtain ⟨⟨_, line⟩, us, rfl, rfl, hrest⟩ := List.map_eq_cons_iff.mp hu
    obtain ⟨es', hes', hsame⟩ := hts.congr hrest
    exact ⟨es', .spare hes', hsame⟩
  | _, _, _, .cons hss hts, hu => by
    rw [List.map_append] at hu
    obtain ⟨ss, us, rfl, hss', hu⟩ := List.map_eq_append_iff.mp hu
    obtain ⟨e', he', hsame⟩ := hss.congr hss'
    obtain ⟨es', hes', hsames⟩ := hts.congr hu
    exact ⟨e' :: es', .cons he' hes', by rw [unlinedAll, unlinedAll, hsame, hsames]⟩

end

end Grammar

namespace Entry

variable {own es : List Entry} {e old x : Entry} {mode : InputMode}

/-! ### What is made, without lines -/

theorem putIn_unlined (mode : InputMode) (own : List Entry) (e : Entry) :
    putIn mode (unlinedAll own) e.unlined = unlinedAll (putIn mode own e) := by
  have hplace := place_unlined mode own e
  unfold putIn
  cases hp : place mode own e <;> cases hp' : place mode (unlinedAll own) e.unlined <;>
    rw [hp, hp'] at hplace
  · contradiction
  · contradiction
  · exact Option.some.inj hplace

mutual

theorem settled_unlined : ∀ e : Entry, settled mode e.unlined = (settled mode e).unlined
  | primitive h ts => by rw [unlined, settled, settled, unlined]
  | dictionary h es => by
    have hes := settledAll_unlined [] es
    rw [unlinedAll] at hes
    rw [unlined, settled, settled, unlined, hes]

theorem settledAll_unlined : ∀ own es : List Entry,
    settledAll mode (unlinedAll own) (unlinedAll es) = unlinedAll (settledAll mode own es)
  | own, [] => by rw [unlinedAll, settledAll, settledAll]
  | own, e :: es => by
    rw [unlinedAll, settledAll, settledAll, settled_unlined e, putIn_unlined,
      settledAll_unlined _ es]

end

theorem map_keyword_unlinedAll (es : List Entry) :
    (unlinedAll es).map keyword = es.map keyword := by
  rw [unlinedAll_eq_map, List.map_map]
  exact List.map_congr_left fun e _ => keyword_unlined e

mutual

theorem Distinct.unlined : ∀ {e : Entry}, e.Distinct → e.unlined.Distinct
  | primitive .., _ => by
    rw [Entry.unlined]
    exact distinct_primitive
  | dictionary .., he => by
    rw [Entry.unlined]
    exact distinct_dictionary.mpr (distinct_dictionary.mp he).unlined

theorem AllDistinct.unlined : ∀ {es : List Entry}, AllDistinct es → AllDistinct (unlinedAll es)
  | [], h => h
  | e :: es, h => by
    obtain ⟨he, hes⟩ := List.forall_mem_cons.mp h.each
    have hrest : AllDistinct es := ⟨(List.nodup_cons.mp h.keywords).2, hes⟩
    exact ⟨map_keyword_unlinedAll (e :: es) ▸ h.keywords,
      List.forall_mem_cons.mpr ⟨he.unlined, hrest.unlined.each⟩⟩

end

/-- Unless redefinitions are retained, what is made has distinct keywords. -/
theorem nodup_putIn (hm : mode ≠ .retain) (h : (own.map keyword).Nodup) (e : Entry) :
    ((putIn mode own e).map keyword).Nodup := by
  unfold putIn
  cases hp : place mode own e with
  | error f => exact h
  | ok p => exact nodup_place hm h hp

theorem nodup_settledAll (hm : mode ≠ .retain) (h : (own.map keyword).Nodup) (es : List Entry) :
    ((settledAll mode own es).map keyword).Nodup := by
  induction es generalizing own with
  | nil => exact h
  | cons e es ih => exact ih (nodup_putIn hm h _)

/-! ### Merging an entry, by text and by name -/

/-- Both are dictionaries of one keyword, and that of the first one is a pattern. -/
def Meets (old e : Entry) : Prop :=
  old.keyword = e.keyword ∧ old.isDictionary = true ∧ e.isDictionary = true ∧
    old.head.isPattern = true

theorem eq_of_keyword (hown : (own.map keyword).Nodup) (hx : x ∈ own) (hold : old ∈ own)
    (h : x.keyword = old.keyword) : x = old := List.inj_on_of_nodup_map hown hx hold h

theorem keyword_of_isNamed {k : String} (h : e.head.isNamed k = true) : e.keyword = k := by
  rw [Heading.isNamed, Bool.and_eq_true] at h
  exact beq_iff_eq.mp h.2

/-- A dictionary that would be merged into by name. -/
theorem find?_isNamed_mem {k : String} (h : own.reverse.find? (·.head.isNamed k) = some x) :
    x ∈ own ∧ x.keyword = k ∧ x.head.isPattern = false := by
  have hnamed := List.find?_some h
  refine ⟨List.mem_reverse.mp (List.mem_of_find?_eq_some h), keyword_of_isNamed hnamed, ?_⟩
  rw [Heading.isNamed, Bool.and_eq_true] at hnamed
  simpa using hnamed.1

/-- An entry that is not merged into what has its keyword takes the place of it. -/
theorem mergeOne_eq_replace
    (h : ∀ old ∈ own, old.keyword = e.keyword → old.isDictionary = true → e.isDictionary = true →
      old.head.isPattern = true) :
    mergeOne own e = without e.keyword own ++ [e] := by
  refine mergeOne_of_other fun he k inner hfind => ?_
  obtain ⟨hmem, hk, hplain⟩ := find?_isNamed_mem hfind
  exact Bool.false_ne_true (hplain.symm.trans (h _ hmem hk rfl he))

/-- What becomes of an entry by the text of its keyword and by name is the same, unless it is a
dictionary that meets a pattern. -/
theorem putIn_merge (hown : (own.map keyword).Nodup) (h : ∀ old ∈ own, ¬old.Meets e) :
    putIn .merge own e = mergeOne own e := by
  cases hn : newest? e.keyword own with
  | none =>
    have hnew := newest?_eq_none.mp hn
    have hwithout : without e.keyword own = own := List.filter_eq_self.mpr fun x hx => by
      have hne : x.keyword ≠ e.keyword := fun heq => hnew (heq ▸ List.mem_map_of_mem hx)
      simpa using hne
    rw [putIn_new hnew, mergeOne_eq_replace, hwithout]
    exact fun old hold hk _ _ => absurd (hk ▸ List.mem_map_of_mem hold) hnew
  | some old =>
    have hold : old ∈ own := List.mem_reverse.mp (List.mem_of_find?_eq_some hn)
    obtain ⟨before, after, hsplit, hk, hafter⟩ := exists_of_find?_reverse hn
    by_cases hboth : (old.isDictionary && e.isDictionary) = true
    · obtain ⟨hdictionary, hdictionary'⟩ := Bool.and_eq_true_iff.mp hboth
      obtain ⟨k, inner, rfl⟩ := exists_of_isDictionary hdictionary
      obtain ⟨k', es, rfl⟩ := exists_of_isDictionary hdictionary'
      have hplain : k.isPattern = false := by
        have hmeets := h _ hold
        simpa [Meets, beq_iff_eq.mp hk, isDictionary, head] using hmeets
      have hnamed : k.isNamed k'.keyword = true := by
        rw [Heading.isNamed, hplain]
        exact hk
      have hunnamed : ∀ x ∈ after, x.head.isNamed k'.keyword = false := fun x hx =>
        (congrArg (_ && ·) (hafter x hx)).trans (Bool.and_false _)
      have hput : putIn .merge own (dictionary k' es) =
          (dictionary k' es).mergeNewest own := by
        unfold putIn place
        rw [hn]
        rfl
      rw [hput, hsplit, mergeNewest_append hk hafter, mergeOne_of_named hnamed hunnamed]
      rfl
    · have hput : putIn .merge own e = without e.keyword own ++ [e] := by
        unfold putIn place
        rw [hn]
        simp only [InputMode.placement, if_neg hboth]
      rw [hput, mergeOne_eq_replace]
      intro x hx hxe hdictionary he
      obtain rfl := eq_of_keyword hown hx hold (hxe.trans (beq_iff_eq.mp hk).symm)
      exact absurd (Bool.and_eq_true_iff.mpr ⟨hdictionary, he⟩) hboth

/-- If it does meet one, it is merged into it by the text of its keyword. -/
theorem putIn_merge_of_meets (hown : (own.map keyword).Nodup) (hold : old ∈ own)
    (h : old.Meets e) : old.merge e ∈ putIn .merge own e := by
  obtain ⟨hk, hdictionary, he, -⟩ := h
  have hn : newest? e.keyword own = some old := by
    obtain ⟨x, hx⟩ : ∃ x, newest? e.keyword own = some x := by
      rw [← Option.ne_none_iff_exists']
      exact fun hnone => newest?_eq_none.mp hnone (hk ▸ List.mem_map_of_mem hold)
    have hmem := List.mem_reverse.mp (List.mem_of_find?_eq_some hx)
    have hxe : x.keyword = e.keyword := by simpa using List.find?_some hx
    rw [hx, eq_of_keyword hown hmem hold (hxe.trans hk.symm)]
  obtain ⟨before, after, -, hmerge⟩ := mergeNewest_of_newest? hn
  unfold putIn place
  rw [hn]
  simp only [InputMode.placement, hdictionary, he, Bool.and_self, if_true, hmerge e rfl]
  exact List.mem_append_right _ List.mem_cons_self

/-! ### Merging all entries -/

theorem mergeAll_eq_foldl (own es : List Entry) : mergeAll own es = es.foldl mergeOne own := by
  induction es generalizing own with
  | nil => rfl
  | cons e es ih => rw [mergeAll, ih, List.foldl_cons]

/-- Merging an entry puts it in the place of all of its keyword, or changes one of them. -/
theorem mergeOne_cases (own : List Entry) (e : Entry) :
    mergeOne own e = without e.keyword own ++ [e] ∨
      ∃ before old new after, own = before ++ old :: after ∧
        mergeOne own e = before ++ new :: after ∧ old.keyword = e.keyword ∧
          new.keyword = e.keyword := by
  cases e with
  | primitive h ts => exact .inl rfl
  | dictionary h es =>
    unfold mergeOne
    dsimp only
    split
    · cases hc : changeLast _ own with
      | none => exact .inl rfl
      | some merged =>
        obtain ⟨before, old, new, after, rfl, hnew, rfl⟩ := changeLast_eq_some hc
        refine .inr ⟨before, old, new, after, rfl, rfl, ?_⟩
        split at hnew
        · next hnamed =>
          have hk : old.keyword = h.keyword := keyword_of_isNamed hnamed
          cases old with
          | primitive => contradiction
          | dictionary k inner =>
            cases hnew
            exact ⟨hk, (keyword_mergedHead k h).trans hk⟩
        · contradiction
    · exact .inl rfl

theorem mem_replace (hx : x.keyword ≠ e.keyword) :
    x ∈ without e.keyword own ++ [e] ↔ x ∈ own := by
  have hne : x ≠ e := fun heq => hx (heq ▸ rfl)
  simp [without, hx, hne]

theorem mem_changed {before after : List Entry} {new : Entry} (hold : old.keyword ≠ x.keyword)
    (hnew : new.keyword ≠ x.keyword) : x ∈ before ++ new :: after ↔ x ∈ before ++ old :: after := by
  have hne : x ≠ old := fun heq => hold (heq ▸ rfl)
  have hne' : x ≠ new := fun heq => hnew (heq ▸ rfl)
  simp [hne, hne']

/-- Entries of other keywords stay. -/
theorem mem_mergeOne (hx : x.keyword ≠ e.keyword) : x ∈ mergeOne own e ↔ x ∈ own := by
  obtain heq | ⟨before, old, new, after, rfl, heq, hold, hnew⟩ := mergeOne_cases own e
  · rw [heq, mem_replace hx]
  · rw [heq]
    exact mem_changed (hold ▸ hx.symm) (hnew ▸ hx.symm)

theorem mem_putIn (hx : x.keyword ≠ e.keyword) : x ∈ putIn mode own e ↔ x ∈ own := by
  have hne : x ≠ e := fun heq => hx (heq ▸ rfl)
  have happend : x ∈ own ++ [e] ↔ x ∈ own := by simp [hne]
  unfold putIn place
  cases hn : newest? e.keyword own with
  | none => exact happend
  | some old =>
    dsimp only
    cases mode.placement (old.isDictionary && e.isDictionary) with
    | append => exact happend
    | merge =>
      obtain ⟨before, after, rfl, hmerge⟩ := mergeNewest_of_newest? hn
      have hk : old.keyword = e.keyword := by simpa using List.find?_some hn
      dsimp only
      rw [hmerge e rfl]
      exact mem_changed (hk ▸ hx.symm) (keyword_merge old e ▸ hk ▸ hx.symm)
    | replace => exact mem_replace hx
    | ignore => exact Iff.rfl
    | refuse => exact Iff.rfl

/-- No keyword is lost. -/
theorem keyword_mem_mergeAll {k : String} (h : k ∈ own.map keyword) (es : List Entry) :
    k ∈ (mergeAll own es).map keyword := by
  induction es generalizing own with
  | nil => exact h
  | cons e es ih =>
    refine ih ?_
    obtain heq | ⟨before, old, new, after, rfl, heq, hold, hnew⟩ := mergeOne_cases own e <;> rw [heq]
    · obtain ⟨x, hx, rfl⟩ := List.mem_map.mp h
      by_cases hxe : x.keyword = e.keyword
      · rw [hxe]
        exact List.mem_map_of_mem (List.mem_append_right _ List.mem_cons_self)
      · exact List.mem_map_of_mem ((mem_replace hxe).mpr hx)
    · simpa [hold, hnew] using h

theorem mem_putIn_settled (hx : x.keyword ≠ e.keyword) :
    x ∈ putIn mode own (e.settled mode) ↔ x ∈ own := mem_putIn (by rwa [keyword_settled])

theorem mem_foldl {put : List Entry → Entry → List Entry}
    (hput : ∀ own e, x.keyword ≠ e.keyword → (x ∈ put own e ↔ x ∈ own))
    (hes : x.keyword ∉ es.map keyword) : x ∈ es.foldl put own ↔ x ∈ own := by
  induction es generalizing own with
  | nil => rfl
  | cons e es ih =>
    rw [List.map_cons, List.mem_cons, not_or] at hes
    rw [List.foldl_cons, ih hes.2, hput _ _ hes.1]

/-- Entries of distinct keywords that meet no pattern are made where others are as they are merged
there. -/
theorem settledAll_merge (hown : (own.map keyword).Nodup) (hes : AllDistinct es)
    (h : ∀ old ∈ own, ∀ e ∈ es, ¬old.Meets e) : settledAll .merge own es = mergeAll own es := by
  induction es generalizing own with
  | nil => rfl
  | cons e es ih =>
    obtain ⟨he, heach⟩ := List.forall_mem_cons.mp hes.each
    obtain ⟨hnew, hkeywords⟩ := List.nodup_cons.mp hes.keywords
    have hput := putIn_merge hown fun old hold => h old hold e List.mem_cons_self
    rw [settledAll, mergeAll, settled_distinct he, ← hput]
    refine ih (nodup_putIn (by decide) hown e) ⟨hkeywords, heach⟩ fun old hold x hx hmeets => ?_
    have hne : old.keyword ≠ e.keyword := fun heq =>
      hnew (heq ▸ hmeets.1 ▸ List.mem_map_of_mem hx)
    exact h old ((mem_putIn hne).mp hold) x (List.mem_cons_of_mem _ hx) hmeets

/-- An entry that meets a pattern is merged into it where statements are read, and takes its place
where dictionaries are merged. -/
theorem mem_of_meets (hown : (own.map keyword).Nodup) (hes : AllDistinct es) (hold : old ∈ own)
    (he : e ∈ es) (h : old.Meets e) :
    old.merge e ∈ settledAll .merge own es ∧ e ∈ mergeAll own es := by
  obtain ⟨front, rest, rfl⟩ := List.append_of_mem he
  have hkeywords := hes.keywords
  rw [List.map_append, List.map_cons, List.nodup_append, List.nodup_cons] at hkeywords
  obtain ⟨-, ⟨hrest, -⟩, hfront⟩ := hkeywords
  have hfront : e.keyword ∉ front.map keyword := fun hk => hfront _ hk _ List.mem_cons_self rfl
  have hk : old.keyword = e.keyword := h.1
  have hsettled : e.settled .merge = e := settled_distinct (hes.each e he)
  constructor
  · have hmem : old ∈ settledAll .merge own front := by
      rw [settledAll_eq_foldl]
      exact (mem_foldl (fun _ _ => mem_putIn_settled) (hk ▸ hfront)).mpr hold
    have hmerged := putIn_merge_of_meets (nodup_settledAll (by decide) hown front) hmem h
    rw [settledAll_append, settledAll, hsettled, settledAll_eq_foldl]
    refine (mem_foldl (fun _ _ => mem_putIn_settled) ?_).mpr hmerged
    rwa [keyword_merge, hk]
  · rw [mergeAll_eq_foldl, List.foldl_append, List.foldl_cons]
    refine (mem_foldl (fun _ _ => mem_mergeOne) hrest).mpr ?_
    rw [mergeOne_eq_replace]
    · exact List.mem_append_right _ List.mem_cons_self
    · intro x hx hxe _ _
      have hmem := (mem_foldl (fun _ _ => mem_mergeOne) (hxe ▸ hfront)).mp hx
      rw [eq_of_keyword hown hmem hold (hxe.trans hk.symm)]
      exact h.2.2.2

/-- The entry is a dictionary in which the keyword stands. -/
def Holds (e : Entry) (k : String) : Prop := ∃ es, e.inner? = some es ∧ k ∈ es.map keyword

theorem holds_unlined {k : String} : e.unlined.Holds k ↔ e.Holds k := by
  cases e with
  | primitive => simp [Holds, inner?, unlined]
  | dictionary h es =>
    have hkeys := map_keyword_unlinedAll es
    simp only [Holds, inner?, unlined, Option.some.injEq, exists_eq_left', hkeys]

theorem Holds.merge {k : String} (h : old.Holds k) (e : Entry) : (old.merge e).Holds k := by
  obtain ⟨own, hinner, hk⟩ := h
  cases old with
  | primitive => contradiction
  | dictionary k₀ inner =>
    cases hinner
    cases e with
    | primitive => exact ⟨_, rfl, hk⟩
    | dictionary h es => exact ⟨_, rfl, keyword_mem_mergeAll hk es⟩

/-- If a dictionary of the pattern holds more than the one that meets it, that is lost where
dictionaries are merged. -/
theorem settledAll_merge_ne (hown : (own.map keyword).Nodup) (hes : AllDistinct es)
    (hold : old ∈ own) (he : e ∈ es) (h : old.Meets e) {k : String} (hk : old.Holds k)
    (hlost : ¬e.Holds k) : unlinedAll (settledAll .merge own es) ≠ unlinedAll (mergeAll own es) := by
  obtain ⟨hmerged, hreplaced⟩ := mem_of_meets hown hes hold he h
  intro heq
  have hnodup : ((unlinedAll (settledAll .merge own es)).map keyword).Nodup := by
    rw [map_keyword_unlinedAll]
    exact nodup_settledAll (by decide) hown es
  have hmerged : (old.merge e).unlined ∈ unlinedAll (settledAll .merge own es) := by
    rw [unlinedAll_eq_map]
    exact List.mem_map_of_mem hmerged
  have hreplaced : e.unlined ∈ unlinedAll (settledAll .merge own es) := by
    rw [heq, unlinedAll_eq_map]
    exact List.mem_map_of_mem hreplaced
  have hsame : (old.merge e).unlined = e.unlined :=
    eq_of_keyword hnodup hmerged hreplaced
      (by rw [keyword_unlined, keyword_unlined, keyword_merge, h.1])
  exact hlost (holds_unlined.mp (hsame ▸ holds_unlined.mpr (hk.merge e)))

end Entry

/-! ### Texts -/

namespace Lexer

variable {cs rest : List Char} {ss us : List Symbol}

/-- A text and another one in the next line. -/
theorem Lexes.line {ts : List Token} (h : lex 1 cs = ⟨ts, none⟩) (hrest : Lexes rest us) :
    Lexes (cs ++ '\n' :: rest) (ts.map Token.symbol ++ us) := by
  intro line
  obtain ⟨hlike, hfault⟩ := lex_relined 1 line cs
  rw [h] at hlike hfault
  obtain ⟨vs, hvs, hus⟩ := hrest (line + newlines cs + 1)
  have hnone : (lex line cs).fault = none := Option.not_isSome_iff_eq_none.mp (by simp [hfault])
  refine ⟨(lex line cs).tokens ++ vs, ?_, ?_⟩
  · rw [lex_append hnone, hvs]
  · rw [List.map_append, hus, hlike.map_symbol]

theorem Lexes.opens (h : Lexes rest ss) :
    Lexes ("w \x7b ".toList ++ rest) (.word "w" :: .opener .brace :: ss) :=
  .step (fun line => ⟨line, rfl⟩) (.blank (by decide) (.step (fun line => ⟨line, rfl⟩)
    (.blank (by decide) h)))

theorem Lexes.closes (h : Lexes rest ss) : Lexes ('\x7d' :: rest) (.closer .brace :: ss) :=
  .step (fun line => ⟨line, rfl⟩) h

end Lexer

namespace Reader

open Lexer

/-- The statements of both texts, each in a dictionary `w` of its own. -/
def apart (A B : String) : String :=
  "w \x7b " ++ A ++ "\n\x7d w \x7b " ++ B ++ "\n\x7d"

/-- The statements of both texts in one dictionary `w`. -/
def together (A B : String) : String := "w \x7b " ++ A ++ "\n" ++ B ++ "\n\x7d"

section Reading

variable {setup : Setup} {limit : Int} {n : Nat} {A B : String} {ts us : List Token}
  {es es' : List Entry}

/-- What is read of a text whose tokens are those of a body, up to lines. -/
theorem ofText_settled (hmode : setup.settings.mode ≠ .error) {text : String}
    (hlex : Lexes text.toList (ts.map Token.symbol))
    (hes : Grammar.Body setup.settings.maxNesting 0 ts es) (name : String) :
    ∃ e, (ofText setup text name).1 = .ok e ∧ e.unlined =
      (dictionary ⟨name, false, -1, -1⟩ (settledAll setup.settings.mode [] es)).unlined := by
  obtain ⟨vs, hvs, hsymbols⟩ := hlex 1
  obtain ⟨es', hbody, hsame⟩ := hes.congr hsymbols
  refine ⟨dictionary ⟨name, false, 1, lineAfter 0 vs⟩ (settledAll setup.settings.mode [] es'),
    ?_, ?_⟩
  · rw [ofText, Writer.ofText_eq_ofTokens hvs]
    exact (Grammar.Document.closed hbody).read_settled hmode name
  · have hsettled := @settledAll_unlined setup.settings.mode [] es
    have hsettled' := @settledAll_unlined setup.settings.mode [] es'
    rw [hsame, hsettled] at hsettled'
    rw [unlined, unlined, hsettled']
    rfl

/-- The tokens of a dictionary `w`. -/
def inBraces (ts : List Token) : List Token :=
  ⟨.word "w", 1⟩ :: ⟨.opener .brace, 1⟩ :: ts ++ [⟨.closer .brace, 1⟩]

theorem statement_inBraces (hlimit : 0 < limit) (hes : Grammar.Body limit 1 ts es) :
    Grammar.Statement limit 0 (inBraces ts) (dictionary ⟨"w", false, 1, 1⟩ es) :=
  .dictionary rfl hlimit hes

section Lexing

variable (hA : lex 1 A.toList = ⟨ts, none⟩) (hB : lex 1 B.toList = ⟨us, none⟩)

include hA hB

theorem lexes_apart :
    Lexes (apart A B).toList ((inBraces ts ++ inBraces us).map Token.symbol) := by
  have htext : (apart A B).toList = "w \x7b ".toList ++ (A.toList ++ '\n' :: '\x7d' :: ' ' ::
      ("w \x7b ".toList ++ (B.toList ++ '\n' :: '\x7d' :: []))) := by
    simp [apart]
  have hlexes := Lexes.opens (.line hA (.closes (.blank (c := ' ') (by decide)
    (.opens (.line hB (.closes .nil))))))
  rw [htext]
  simpa [inBraces] using hlexes

theorem lexes_together :
    Lexes (together A B).toList ((inBraces (ts ++ us)).map Token.symbol) := by
  have htext : (together A B).toList = "w \x7b ".toList ++ (A.toList ++ '\n' ::
      (B.toList ++ '\n' :: '\x7d' :: [])) := by
    simp [together]
  have hlexes := Lexes.opens (.line hA (.line hB (.closes .nil)))
  rw [htext]
  simpa [inBraces] using hlexes

end Lexing

/-- **Statements are merged as dictionaries are**, unless a dictionary among them meets a pattern:
in the mode `merge` the statements of a second dictionary `w` are read as if they stood in the
first, up to lines. Where a dictionary meets a pattern that holds what it does not, they are not. -/
theorem merge_levels (hmode : setup.settings.mode = .merge)
    (hlimit : 0 < setup.settings.maxNesting) (hA : lex 1 A.toList = ⟨ts, none⟩)
    (hB : lex 1 B.toList = ⟨us, none⟩) (hes : Grammar.Body setup.settings.maxNesting 1 ts es)
    (hes' : Grammar.Body setup.settings.maxNesting 1 us es') (hdistinct : AllDistinct es')
    (name : String) :
    ∃ e e', (ofText setup (apart A B) name).1 = .ok e ∧
      (ofText setup (together A B) name).1 = .ok e' ∧
      ((∀ old ∈ settledAll .merge [] es, ∀ new ∈ es', ¬old.Meets new) → e'.unlined = e.unlined) ∧
      ((∃ old ∈ settledAll .merge [] es, ∃ new ∈ es', old.Meets new ∧
        ∃ k, old.Holds k ∧ ¬new.Holds k) → e'.unlined ≠ e.unlined) := by
  have herror : setup.settings.mode ≠ .error := by simp [hmode]
  have hbody := (statement_inBraces hlimit hes).body.append (statement_inBraces hlimit hes').body
  have hbody' := (statement_inBraces hlimit (hes.append hes')).body
  obtain ⟨e, he, hapart⟩ := ofText_settled herror (lexes_apart hA hB) hbody name
  obtain ⟨e', he', htogether⟩ := ofText_settled herror (lexes_together hA hB) hbody' name
  refine ⟨e, e', he, he', ?_⟩
  -- The two dictionaries `w` are merged by name, the statements of the one by text.
  generalize hown : settledAll .merge [] es = own
  have hnodup : (own.map keyword).Nodup :=
    hown ▸ @nodup_settledAll [] _ (by decide) List.nodup_nil es
  have hdistinct' : settledAll .merge [] es' = es' := by
    simpa using @settledAll_distinct _ [] _ hdistinct fun _ _ => List.not_mem_nil
  have hone : settledAll .merge [] ([dictionary ⟨"w", false, 1, 1⟩ es] ++
      [dictionary ⟨"w", false, 1, 1⟩ es']) =
        [dictionary ⟨"w", false, 1, 1⟩ (mergeAll own es')] := by
    simp only [List.cons_append, List.nil_append, settledAll, settled, hown, hdistinct']
    rfl
  have hboth : settledAll .merge [] [dictionary ⟨"w", false, 1, 1⟩ (es ++ es')] =
      [dictionary ⟨"w", false, 1, 1⟩ (settledAll .merge own es')] := by
    simp only [settledAll, settled, settledAll_append, hown]
    rfl
  rw [hmode, hone] at hapart
  rw [hmode, hboth] at htogether
  rw [hapart, htogether]
  constructor
  · intro h
    rw [settledAll_merge hnodup hdistinct h]
  · rintro ⟨old, hold, new, hnew, hmeets, k, hk, hlost⟩ heq
    refine settledAll_merge_ne hnodup hdistinct hold hnew hmeets hk hlost ?_
    simpa [unlined, unlinedAll] using heq

end Reading

/-- The tokens of a dictionary `a` with a statement `k x;`, and what they stand for. -/
def innerTokens (a : Symbol) (k : String) (x : Int) : List Token :=
  [⟨a, 1⟩, ⟨.opener .brace, 1⟩, ⟨.word k, 1⟩, ⟨.number (.int x), 1⟩, ⟨.terminator, 1⟩,
    ⟨.closer .brace, 1⟩]

def innerEntry (isPattern : Bool) (k : String) (x : Int) : Entry :=
  dictionary ⟨"a", isPattern, 1, 1⟩ [primitive ⟨k, false, 1, 1⟩ [⟨.number (.int x), 1⟩]]

theorem body_innerTokens (isPattern : Bool) (k : String) (x : Int) :
    Grammar.Body 64 1 (innerTokens (keywordSymbol "a" isPattern) k x) [innerEntry isPattern k x] := by
  have hvalue : Grammar.IsValue [⟨.number (.int x), 1⟩] := ⟨by simp, by simp, .atom rfl .nil⟩
  have hhead : Grammar.heading? ⟨keywordSymbol "a" isPattern, 1⟩ 1 =
      some ⟨"a", isPattern, 1, 1⟩ := by cases isPattern <;> cbv
  have hinner : Grammar.Statement 64 2 (⟨.word k, 1⟩ :: [⟨.number (.int x), 1⟩] ++ [⟨.terminator, 1⟩])
      (primitive ⟨k, false, 1, 1⟩ [⟨.number (.int x), 1⟩]) := .value rfl hvalue
  exact (Grammar.Statement.dictionary hhead (by decide) hinner.body).body

theorem allDistinct_innerEntry (isPattern : Bool) (k : String) (x : Int) :
    AllDistinct [innerEntry isPattern k x] := by
  have hinner : AllDistinct [primitive ⟨k, false, 1, 1⟩ [⟨.number (.int x), 1⟩]] :=
    ⟨List.nodup_singleton _, List.forall_mem_singleton.mpr distinct_primitive⟩
  exact ⟨List.nodup_singleton _, List.forall_mem_singleton.mpr (distinct_dictionary.mpr hinner)⟩

/-- Dictionaries under one plain keyword. -/
theorem merge_levels_plain : mergingSetup.settings.mode = .merge ∧
    lex 1 "a\x7bx 1;\x7d".toList = ⟨innerTokens (.word "a") "x" 1, none⟩ ∧
    lex 1 "a\x7by 2;\x7d".toList = ⟨innerTokens (.word "a") "y" 2, none⟩ ∧
    ∃ e, (ofText mergingSetup (apart "a\x7bx 1;\x7d" "a\x7by 2;\x7d")).1 = .ok e ∧
      ∃ e', (ofText mergingSetup (together "a\x7bx 1;\x7d" "a\x7by 2;\x7d")).1 = .ok e' ∧
        e'.unlined = e.unlined := by
  have hA : lex 1 "a\x7bx 1;\x7d".toList = ⟨innerTokens (.word "a") "x" 1, none⟩ :=
    lex_of_lexWithin (n := 8) (by cbv)
  have hB : lex 1 "a\x7by 2;\x7d".toList = ⟨innerTokens (.word "a") "y" 2, none⟩ :=
    lex_of_lexWithin (n := 8) (by cbv)
  have hmode : mergingSetup.settings.mode = .merge := rfl
  obtain ⟨e, e', he, he', hsame, -⟩ := merge_levels hmode (by decide) hA hB
    (body_innerTokens false "x" 1) (body_innerTokens false "y" 2)
    (allDistinct_innerEntry false "y" 2) "<inline>"
  have hmeets : ∀ old ∈ settledAll .merge [] [innerEntry false "x" 1],
      ∀ new ∈ [innerEntry false "y" 2], ¬old.Meets new := by
    have hmade : settledAll .merge [] [innerEntry false "x" 1] = [innerEntry false "x" 1] := by cbv
    rw [hmade]
    simp [Entry.Meets, innerEntry, Entry.head]
  exact ⟨rfl, hA, hB, e, he, e', he', hsame hmeets⟩

/-- Dictionaries under one quoted keyword are merged where statements are read, but one takes the
place of the other where what is around them is merged. -/
theorem not_merge_levels : ¬∀ (A B : String) (ts us : List Token) (es es' : List Entry),
    lex 1 A.toList = ⟨ts, none⟩ → lex 1 B.toList = ⟨us, none⟩ →
    Grammar.Body mergingSetup.settings.maxNesting 1 ts es →
    Grammar.Body mergingSetup.settings.maxNesting 1 us es' → AllDistinct es' →
      ∀ e e', (ofText mergingSetup (apart A B)).1 = .ok e →
        (ofText mergingSetup (together A B)).1 = .ok e' → e'.unlined = e.unlined := by
  intro hall
  have hA : lex 1 "\"a\"\x7bx 1;\x7d".toList = ⟨innerTokens (.quoted "a") "x" 1, none⟩ :=
    lex_of_lexWithin (n := 8) (by cbv)
  have hB : lex 1 "\"a\"\x7by 2;\x7d".toList = ⟨innerTokens (.quoted "a") "y" 2, none⟩ :=
    lex_of_lexWithin (n := 8) (by cbv)
  have hbodyA := body_innerTokens true "x" 1
  have hbodyB := body_innerTokens true "y" 2
  have hdistinct := allDistinct_innerEntry true "y" 2
  have herror : mergingSetup.settings.mode ≠ .error := by decide
  obtain ⟨e, he, hapart⟩ := ofText_settled herror (lexes_apart hA hB)
    ((statement_inBraces (by decide) hbodyA).body.append
      (statement_inBraces (by decide) hbodyB).body) "<inline>"
  obtain ⟨e', he', htogether⟩ := ofText_settled herror (lexes_together hA hB)
    (statement_inBraces (by decide) (hbodyA.append hbodyB)).body "<inline>"
  have hsame := hall _ _ _ _ _ _ hA hB hbodyA hbodyB hdistinct e e' he he'
  rw [hapart, htogether] at hsame
  cbv at hsame
  simp at hsame

end Reader

end CaseDict
