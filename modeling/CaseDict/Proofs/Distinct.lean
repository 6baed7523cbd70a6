import CaseDict.Proofs.Framing
import CaseDict.Proofs.Modes
import CaseDict.Proofs.Placing
/-! # Distinct keywords

A keyword may be redefined only in the mode `retain`. In the other modes the keywords of every
dictionary are distinct, in whatever way its entries come there: what is placed takes the place of
what has its keyword or is merged into it, and merging keeps keywords distinct at every depth. -/

namespace CaseDict

open Expansion Statement

theorem InputMode.placement_eq_append {mode : InputMode} {mergeable : Bool}
    (h : mode.placement mergeable = .append) : mode = .retain := by
  revert h
  cases mode <;> cases mergeable <;> decide

namespace Entry

mutual

/-- The entries of a dictionary and of all dictionaries in it, those of each in a list. -/
def levels : Entry → List (List Entry)
  | .primitive .. => []
  | .dictionary _ es => es :: levelsOf es

def levelsOf : List Entry → List (List Entry)
  | [] => []
  | e :: es => e.levels ++ levelsOf es

end

/-- In every dictionary the keywords are distinct. -/
def Distinct (e : Entry) : Prop := ∀ es ∈ e.levels, (es.map keyword).Nodup

/-- The keywords are distinct, and those in every dictionary too. -/
structure AllDistinct (es : List Entry) : Prop where
  keywords : (es.map keyword).Nodup
  each : ∀ e ∈ es, e.Distinct

theorem mem_levelsOf {l : List Entry} {es : List Entry} :
    l ∈ levelsOf es ↔ ∃ e ∈ es, l ∈ e.levels := by
  induction es with
  | nil => simp [levelsOf]
  | cons e es ih => simp [levelsOf, ih]

theorem distinct_primitive {h : Heading} {ts : List Token} : (primitive h ts).Distinct :=
  List.forall_mem_nil _

theorem distinct_dictionary {h : Heading} {es : List Entry} :
    (dictionary h es).Distinct ↔ AllDistinct es := by
  simp only [Distinct, levels, List.forall_mem_cons, mem_levelsOf]
  exact ⟨fun ⟨hk, he⟩ => ⟨hk, fun e hmem l hl => he l ⟨e, hmem, hl⟩⟩,
    fun ⟨hk, he⟩ => ⟨hk, fun l ⟨e, hmem, hl⟩ => he e hmem l hl⟩⟩

/-! ### Placing and merging -/

variable {es es' : List Entry} {e : Entry}

theorem nodup_concat (h : (es.map keyword).Nodup) (hn : e.keyword ∉ es.map keyword) :
    ((es ++ [e]).map keyword).Nodup := by
  rw [List.map_append, List.nodup_append]
  refine ⟨h, by simp, fun k hk k' hk' => ?_⟩
  obtain rfl : k' = e.keyword := by simpa using hk'
  exact fun heq => hn (heq ▸ hk)

theorem nodup_filter (h : (es.map keyword).Nodup) (p : Entry → Bool) :
    ((es.filter p).map keyword).Nodup := h.sublist (List.filter_sublist.map keyword)

/-- An entry in the place of all that have its keyword. -/
theorem nodup_replace (h : (es.map keyword).Nodup) :
    ((without e.keyword es ++ [e]).map keyword).Nodup := by
  refine nodup_concat (nodup_filter h _) fun hk => ?_
  obtain ⟨x, hx, hxe⟩ := List.mem_map.mp hk
  have hne := (List.mem_filter.mp hx).2
  simp [hxe] at hne

namespace AllDistinct

theorem nil : AllDistinct [] := ⟨List.nodup_nil, List.forall_mem_nil _⟩

theorem filter (h : AllDistinct es) (p : Entry → Bool) : AllDistinct (es.filter p) :=
  ⟨nodup_filter h.keywords p, forall_mem_filter h.each p⟩

theorem concat (h : AllDistinct es) (he : e.Distinct) (hn : e.keyword ∉ es.map keyword) :
    AllDistinct (es ++ [e]) := ⟨nodup_concat h.keywords hn, forall_mem_concat h.each he⟩

theorem replace (h : AllDistinct es) (he : e.Distinct) :
    AllDistinct (without e.keyword es ++ [e]) :=
  ⟨nodup_replace h.keywords, forall_mem_replace h.each he _⟩

end AllDistinct

theorem keywords_changeLast {change : Entry → Option Entry}
    (hc : ∀ e e', change e = some e' → e'.keyword = e.keyword)
    (h : changeLast change es = some es') : es'.map keyword = es.map keyword := by
  obtain ⟨before, old, new, after, rfl, hnew, rfl⟩ := changeLast_eq_some h
  rw [List.map_append, List.map_append, List.map_cons, List.map_cons, hc _ _ hnew]

/-- A change of one entry that keeps its keyword. -/
theorem AllDistinct.changeLast {change : Entry → Option Entry} (h : AllDistinct es)
    (hc : ∀ e e', e.Distinct → change e = some e' → e'.Distinct)
    (hk : ∀ e e', change e = some e' → e'.keyword = e.keyword)
    (hes : changeLast change es = some es') : AllDistinct es' :=
  ⟨keywords_changeLast hk hes ▸ h.keywords, forall_mem_changeLast h.each hc hes⟩

theorem keyword_mergedHead (h h' : Heading) : (mergedHead h h').keyword = h.keyword := by
  unfold mergedHead
  split <;> rfl

mutual

theorem AllDistinct.mergeAll : ∀ {own es : List Entry}, AllDistinct own →
    (∀ e ∈ es, e.Distinct) → AllDistinct (mergeAll own es)
  | _, [], h, _ => h
  | _, _ :: _, h, he => by
    obtain ⟨he, hes⟩ := List.forall_mem_cons.mp he
    rw [Entry.mergeAll]
    exact (AllDistinct.mergeOne h he).mergeAll hes

theorem AllDistinct.mergeOne : ∀ {own : List Entry} {e : Entry}, AllDistinct own → e.Distinct →
    AllDistinct (mergeOne own e)
  | _, .primitive .., h, he => h.replace he
  | own, .dictionary k es, h, he => by
    have hr : AllDistinct (without k.keyword own ++ [.dictionary k es]) := h.replace he
    unfold Entry.mergeOne
    dsimp only
    split
    · cases hc : Entry.changeLast _ own with
      | none => exact hr
      | some merged =>
        have hmerged (e e' : Entry)
            (hm : (if e.head.isNamed k.keyword then e.inner?.map fun inner =>
              dictionary (mergedHead e.head k) (Entry.mergeAll inner es) else none) = some e') :
            ∃ h' inner, e = .dictionary h' inner ∧
              e' = .dictionary (mergedHead h' k) (Entry.mergeAll inner es) := by
          split at hm
          · cases e with
            | primitive => contradiction
            | dictionary h' inner => exact ⟨h', inner, rfl, (Option.some.inj hm).symm⟩
          · contradiction
        refine h.changeLast (fun e e' hold hm => ?_) (fun e e' hm => ?_) hc
        · obtain ⟨h', inner, rfl, rfl⟩ := hmerged e e' hm
          rw [distinct_dictionary] at hold ⊢
          exact hold.mergeAll (distinct_dictionary.mp he).each
        · obtain ⟨h', inner, rfl, rfl⟩ := hmerged e e' hm
          exact keyword_mergedHead h' k
    · exact hr

end

theorem Distinct.merge {own other : Entry} (h : own.Distinct) (h' : other.Distinct) :
    (merge own other).Distinct := by
  unfold Entry.merge
  split
  · rw [distinct_dictionary] at h h' ⊢
    exact h.mergeAll h'.each
  · exact h

theorem keyword_merge (own other : Entry) : (merge own other).keyword = own.keyword := by
  unfold Entry.merge
  split
  · exact keyword_mergedHead _ _
  · rfl

theorem nodup_mergeNewest (h : (es.map keyword).Nodup) :
    ((mergeNewest e es).map keyword).Nodup := by
  rcases mergeNewest_cases e es with hsame | ⟨before, old, after, rfl, -, hmerged⟩
  · exact hsame.symm ▸ h
  · rw [List.map_append, List.map_cons] at h
    rwa [hmerged, List.map_append, List.map_cons, keyword_merge]

theorem AllDistinct.mergeNewest (h : AllDistinct es) (he : e.Distinct) :
    AllDistinct (mergeNewest e es) := by
  refine ⟨nodup_mergeNewest h.keywords, ?_⟩
  rcases mergeNewest_cases e es with hsame | ⟨before, old, after, rfl, -, hmerged⟩
  · exact hsame.symm ▸ h.each
  · rw [hmerged]
    obtain ⟨hbefore, h⟩ := List.forall_mem_append.mp h.each
    obtain ⟨hold, hafter⟩ := List.forall_mem_cons.mp h
    exact List.forall_mem_append.mpr
      ⟨hbefore, List.forall_mem_cons.mpr ⟨hold.merge he, hafter⟩⟩

/-- Unless redefinitions are retained, placing an entry keeps the keywords distinct. -/
theorem nodup_place {mode : InputMode} (hm : mode ≠ .retain) {p : Placed}
    (h : (es.map keyword).Nodup) (hp : e.place mode es = .ok p) :
    (p.entries.map keyword).Nodup := by
  unfold Entry.place at hp
  split at hp
  · next hn =>
    cases hp
    exact nodup_concat h (newest?_eq_none.mp hn)
  · split at hp
    · next hplacement => exact absurd (InputMode.placement_eq_append hplacement) hm
    · cases hp
      exact nodup_mergeNewest h
    · cases hp
      exact nodup_replace h
    · cases hp
      exact h
    · contradiction

theorem AllDistinct.place {mode : InputMode} (hm : mode ≠ .retain) {p : Placed}
    (h : AllDistinct es) (he : e.Distinct) (hp : e.place mode es = .ok p) :
    AllDistinct p.entries := by
  refine ⟨nodup_place hm h.keywords hp, ?_⟩
  unfold Entry.place at hp
  split at hp
  · cases hp
    exact forall_mem_concat h.each he
  · split at hp
    · cases hp
      exact forall_mem_concat h.each he
    · cases hp
      exact (h.mergeNewest he).each
    · cases hp
      exact forall_mem_replace h.each he _
    · cases hp
      exact h.each
    · contradiction

end Entry

/-! ### Reading -/

open Entry

/-- The keywords are distinct and the values literal, at every depth. -/
structure Entry.Orderly (es : List Entry) : Prop where
  distinct : AllDistinct es
  literal : AllCarry Token.AllLiteral es

namespace Entry

variable {es : List Entry} {e e' : Entry}

theorem Orderly.filter (h : Orderly es) (p : Entry → Bool) : Orderly (es.filter p) :=
  ⟨h.distinct.filter p, forall_mem_filter h.literal p⟩

theorem Orderly.alike {heading : Heading → Heading → Prop} (hh : ∀ h, heading h h)
    (h : Orderly es) (he : e ∈ es) : Alike heading Token.AllLiteral (Same Orderly) e e := by
  have hdistinct := h.distinct.each e he
  have hliteral := h.literal e he
  cases e with
  | primitive => exact .primitive (hh _) (carries_primitive.mp hliteral)
  | dictionary =>
    exact .dictionary (hh _)
      ⟨rfl, distinct_dictionary.mp hdistinct, carries_dictionary.mp hliteral⟩

theorem Orderly.same {heads : Heading → Prop}
    (h : Alike (Same heads) Token.AllLiteral (Same Orderly) e e') :
    e = e' ∧ e.Distinct ∧ e.Carries Token.AllLiteral := by
  obtain ⟨hh, hts⟩ | ⟨hh, rfl, hes⟩ := h
  · obtain ⟨rfl, -⟩ := hh
    exact ⟨rfl, distinct_primitive, carries_primitive.mpr hts⟩
  · obtain ⟨rfl, -⟩ := hh
    exact ⟨rfl, distinct_dictionary.mpr hes.distinct, carries_dictionary.mpr hes.literal⟩

end Entry

/-- Reads that make the same dictionary, in which keywords are distinct. -/
def Framing.orderly : Framing.Root :=
  .uniform (Same Orderly) ⟨rfl, .nil, List.forall_mem_nil _⟩ fun h _ => ⟨h.1 ▸ rfl, h.2.filter _⟩

theorem Framing.membersOf_orderly {x : Scope.Kind} :
    (Framing.rooted Framing.orderly).membersOf x = Same Orderly := membersOf_rooted rfl

/-- The mode is the same and does not retain redefinitions. -/
abbrev InputMode.Distinguishing : InputMode → InputMode → Prop := Same (· ≠ .retain)

/-- Up to a change of the mode, a read keeps keywords distinct. -/
theorem Setup.distinguishing (setup : Setup) :
    Courses .unstopped
      ((Framing.rooted Framing.orderly).link .unstopped InputMode.Distinguishing)
      (.freely True) (.modes setup.registry) (Same Orderly) setup setup := by
  refine Framing.courses_same (fun _ => trivial) rfl
    (fun _ name hf => Watch.stopped_within hf name) (fun _ _ _ h => h ▸ rfl)
    (fun _ _ _ => ⟨rfl, rfl⟩) (fun _ _ _ _ _ => trivial) (fun _ => Framing.membersOf_orderly)
    (fun fs fs' hf name => .inl (Framing.rooted_finds _ (fun es es' h => ?_) hf name))
    (fun e e' => Orderly.same) (fun es hes e he => ⟨hes.distinct.each e he, hes.literal e he⟩)
    (fun mode es e p hm hes he hp => ?_) fun n t name ht hd hw => ?_
  · obtain ⟨rfl, hes⟩ := h
    exact Lookup.corresponds_self fun e he => hes.alike (fun _ => ⟨rfl, fun _ => trivial⟩) he
  · exact ⟨hes.distinct.place hm he.1 hp, carries_hereditary.place hes.literal he.2 hp⟩
  · rw [Watch.modes_directive ht hd] at hw
    contradiction

namespace Reader

/-- If redefinitions are not retained and the mode is not changed, then in a dictionary that was
read, and in every dictionary in it, no two entries have the same keyword. -/
theorem distinct_of_read {setup : Setup} {i : Input} {e : Entry}
    (hm : setup.settings.mode ≠ .retain) (ha : setup.Avoids (.modes setup.registry) i)
    (h : (read setup i).1 = .ok e) : ∀ es ∈ e.levels, (es.map keyword).Nodup := by
  have hends := Framing.read_ends (i := i) _ setup.distinguishing rfl (.inl rfl)
    ⟨fun _ _ => trivial, fun _ _ => trivial⟩ ⟨rfl, hm⟩ rfl
  unfold Setup.Avoids at ha
  generalize Watched.read (.modes setup.registry) setup i = p, read setup i = q at ha h hends
  cases hends with
  | ok hsame =>
    obtain ⟨line, es, es', -, rfl, rfl, hes⟩ := hsame
    obtain rfl := Except.ok.inj h
    exact distinct_dictionary.mpr hes.distinct
  | error => contradiction
  | parted hf => exact absurd (congrArg Except.error hf) ha

/-- A dictionary that is defined twice. -/
def redefining : Input := .ofTokens "t" [⟨.word "d", 1⟩, ⟨.opener .brace, 1⟩, ⟨.word "x", 1⟩,
  ⟨.number (.int 1), 1⟩, ⟨.terminator, 1⟩, ⟨.closer .brace, 1⟩, ⟨.word "d", 2⟩, ⟨.opener .brace, 2⟩,
  ⟨.word "x", 2⟩, ⟨.number (.int 2), 2⟩, ⟨.terminator, 2⟩, ⟨.word "y", 2⟩, ⟨.terminator, 2⟩,
  ⟨.closer .brace, 2⟩]

/-- Dictionaries of one keyword are merged. -/
theorem distinct_of_merged : (bareSetup.inMode .merge).settings.mode ≠ .retain ∧
    (bareSetup.inMode .merge).Avoids (.modes (bareSetup.inMode .merge).registry) redefining ∧
    ∃ e, (read (bareSetup.inMode .merge) redefining).1 = .ok e ∧ e.levels.length = 2 ∧
      ∀ es ∈ e.levels, (es.map keyword).Nodup := by
  have hread : (read (bareSetup.inMode .merge) redefining).1 = .ok (.dictionary ⟨"t", false, 1, 2⟩
      [.dictionary ⟨"d", false, 1, 2⟩ [.primitive ⟨"x", false, 2, 2⟩ [⟨.number (.int 2), 2⟩],
        .primitive ⟨"y", false, 2, 2⟩ []]]) := by cbv
  have hwatched : (Watched.read (.modes (bareSetup.inMode .merge).registry)
      (bareSetup.inMode .merge) redefining).1 = (read (bareSetup.inMode .merge) redefining).1 := by
    rw [hread]
    cbv
  have havoids : (bareSetup.inMode .merge).Avoids (.modes (bareSetup.inMode .merge).registry)
      redefining := by
    rw [Setup.Avoids, hwatched, hread]
    simp
  exact ⟨by decide, havoids, _, hread, rfl, distinct_of_read (by decide) havoids hread⟩

end Reader

end CaseDict
