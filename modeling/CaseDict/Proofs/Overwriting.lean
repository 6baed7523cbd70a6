import CaseDict.Proofs.Hereditary
import CaseDict.Proofs.Framing
import CaseDict.Proofs.Modes
import CaseDict.Proofs.Placing
import CaseDict.Proofs.Shadowing
import Mathlib.Data.List.Find
/-! # Removing shadowed entries

If no pattern stands as a keyword, shadowed entries are never found. So a read in the mode
`overwrite` makes of the same input what a read in the mode `retain` makes, but for the shadowed
entries, and the two dictionaries cannot be told apart by names or values. With patterns this is
not so: a pattern that a plain keyword of one spelling shadows is found under other names. -/

namespace CaseDict

open Expansion Statement

namespace Watch

/-- Keywords that are patterns are watched for. -/
def quoted : Watch := fun _ t =>
  match t.symbol with
  | .quoted _ => true
  | _ => false

/-- Both are watched for. -/
def either (watch watch' : Watch) : Watch := fun n t => watch n t || watch' n t

end Watch

/-! ### Plain entries -/

namespace Entry

variable {es : List Entry}

/-- No keyword is a pattern and all values are literal, at any depth. -/
structure Plain (e : Entry) : Prop where
  keywords : ∀ h ∈ e.headings, h.isPattern = false
  values : e.Carries Token.AllLiteral

abbrev AllPlain (es : List Entry) : Prop := ∀ e ∈ es, e.Plain

theorem plain_primitive {h : Heading} {ts : List Token} :
    (primitive h ts).Plain ↔ h.isPattern = false ∧ Token.AllLiteral ts := by
  refine ⟨fun ⟨hk, hv⟩ => ⟨hk h (by simp [headings]), carries_primitive.mp hv⟩, fun ⟨hk, hv⟩ => ?_⟩
  exact ⟨by simpa [headings] using hk, carries_primitive.mpr hv⟩

theorem plain_dictionary {h : Heading} {es : List Entry} :
    (dictionary h es).Plain ↔ h.isPattern = false ∧ AllPlain es := by
  refine ⟨fun ⟨hk, hv⟩ => ?_, fun ⟨hk, hes⟩ => ?_⟩
  · rw [headings_dictionary, List.forall_mem_cons] at hk
    refine ⟨hk.1, fun e he => ⟨fun k hke => hk.2 k (mem_headingsOf.mpr ⟨e, he, hke⟩), ?_⟩⟩
    exact carries_dictionary.mp hv e he
  · refine ⟨?_, carries_dictionary.mpr fun e he => (hes e he).values⟩
    rw [headings_dictionary, List.forall_mem_cons]
    refine ⟨hk, fun k hke => ?_⟩
    obtain ⟨e, he, hke⟩ := mem_headingsOf.mp hke
    exact (hes e he).keywords k hke

theorem Plain.head {e : Entry} (h : e.Plain) : e.head.isPattern = false := by
  cases e with
  | primitive => exact (plain_primitive.mp h).1
  | dictionary => exact (plain_dictionary.mp h).1

mutual

theorem Plain.unshadowed : ∀ {e : Entry}, e.Plain → e.unshadowed.Plain
  | .primitive .., h => h
  | .dictionary .., h => by
    rw [plain_dictionary] at h
    exact plain_dictionary.mpr ⟨h.1, AllPlain.unshadowedAll h.2⟩

theorem AllPlain.unshadowedAll : ∀ {es : List Entry}, AllPlain es → AllPlain (unshadowedAll es)
  | [], _ => List.forall_mem_nil _
  | e :: es, h => by
    obtain ⟨he, hes⟩ := List.forall_mem_cons.mp h
    rw [Entry.unshadowedAll]
    split
    · exact AllPlain.unshadowedAll hes
    · exact List.forall_mem_cons.mpr ⟨Plain.unshadowed he, AllPlain.unshadowedAll hes⟩

end

theorem failure?_of_plain (h : AllPlain es) :
    (headingsOf es).findSome? Heading.failure? = none := by
  refine List.findSome?_eq_none_iff.mpr fun k hk => ?_
  obtain ⟨e, he, hk⟩ := mem_headingsOf.mp hk
  rw [Heading.failure?, (h e he).keywords k hk]
  rfl

theorem find_of_plain (h : AllPlain es) (name : String) :
    Lookup.find inspection name es = newest? name es := by
  have hnamed : Lookup.findNamed inspection name es = newest? name es := by
    refine List.find?_congr fun e he => ?_
    show e.head.isNamed name = (e.keyword == name)
    rw [Heading.isNamed, (h e (List.mem_reverse.mp he)).head]
    exact Bool.true_and _
  have hmatched : Lookup.findMatched inspection name es = none := by
    refine List.find?_eq_none.mpr fun e he => ?_
    show ¬e.head.isMatched name = true
    rw [Heading.isMatched, (h e (List.mem_reverse.mp he)).head]
    exact Bool.false_ne_true
  rw [Lookup.find, hnamed, hmatched]
  cases newest? name es <;> rfl

end Entry

open Entry

/-- The second entries are the first ones without those that are shadowed. -/
structure Entry.Unshadow (es es' : List Entry) : Prop where
  plain : AllPlain es
  eq : es' = unshadowedAll es

namespace Entry.Unshadow

variable {es es' : List Entry}

theorem of_plain (h : AllPlain es) : Unshadow es (unshadowedAll es) := ⟨h, rfl⟩

theorem nil : Unshadow [] [] := ⟨List.forall_mem_nil _, rfl⟩

theorem filter (h : Unshadow es es') (keep : String → Bool) :
    Unshadow (es.filter fun e => keep e.keyword) (es'.filter fun e => keep e.keyword) :=
  ⟨forall_mem_filter h.plain _, by rw [h.eq, unshadowedAll_filter]⟩

theorem alike {heading : Heading → Heading → Prop} {e : Entry} (hh : heading e.head e.head)
    (h : e.Plain) : Alike heading Token.AllLiteral Unshadow e e.unshadowed := by
  cases e with
  | primitive => exact .primitive hh (plain_primitive.mp h).2
  | dictionary => exact .dictionary hh (of_plain (plain_dictionary.mp h).2)

theorem of_alike {heads : Heading → Prop} {e e' : Entry}
    (hheads : ∀ h, heads h → h.isPattern = false)
    (h : Alike (Same heads) Token.AllLiteral Unshadow e e') : e.Plain ∧ e' = e.unshadowed := by
  obtain ⟨hh, hts⟩ | ⟨hh, hes⟩ := h
  · obtain ⟨rfl, hh⟩ := hh
    exact ⟨plain_primitive.mpr ⟨hheads _ hh, hts⟩, rfl⟩
  · obtain ⟨rfl, hh⟩ := hh
    exact ⟨plain_dictionary.mpr ⟨hheads _ hh, hes.plain⟩, by rw [hes.eq]; rfl⟩

/-- Names denote the same entries, but for the shadowed ones in them. -/
theorem corresponds (h : Unshadow es es') :
    Lookup.Corresponds ((Vocabulary.freely False).Finds Unshadow) es es' := by
  intro name
  rw [h.eq, find_of_plain h.plain, find_of_plain h.plain.unshadowedAll, newest?_unshadowedAll]
  cases hf : newest? name es with
  | none => exact .none
  | some e =>
    have he := h.plain e (List.mem_reverse.mp (List.mem_of_find?_eq_some hf))
    refine .some (alike ⟨rfl, fun hp => ?_⟩ he)
    exact absurd (he.head.symm.trans hp) Bool.false_ne_true

end Entry.Unshadow

/-! ### Reading -/

/-- Reads that make the same dictionary, the second one without shadowed entries. -/
def Framing.unshadowing : Framing.Root := .uniform Unshadow .nil fun h keep => h.filter keep

theorem Framing.membersOf_unshadowing {x : Scope.Kind} :
    (Framing.rooted Framing.unshadowing).membersOf x = Unshadow := membersOf_rooted rfl

/-- Redefinitions are retained, or older entries are removed. -/
abbrev InputMode.Overwriting (mode mode' : InputMode) : Prop := mode = .retain ∧ mode' = .overwrite

theorem Entry.place_overwrite (es : List Entry) (e : Entry) :
    e.place .overwrite es = .ok ⟨replace es e, [e], []⟩ := by
  unfold Entry.place
  split
  · next hn =>
    have hwithout : without e.keyword es = es := List.filter_eq_self.mpr fun x hx => by
      have hne : x.keyword ≠ e.keyword := fun hk =>
        Entry.newest?_eq_none.mp hn (hk ▸ List.mem_map_of_mem hx)
      simpa using hne
    rw [replace, hwithout]
  · rfl

theorem Scope.Carries.refill_entries {V : List Token → Prop} {s : Scope} (h : s.Carries V) :
    s.refill s.entries = s := by
  cases s with
  | stored => contradiction
  | fresh | staged => rfl

theorem Scope.refill_refill (s : Scope) (es es' : List Entry) :
    (s.refill es).refill es' = s.refill es' := by
  cases s <;> rfl

/-- Entries that can always be placed, one after the other. -/
theorem exec_placeEach_foldl {put : List Entry → Entry → List Entry} {s : ReadState}
    (hput : ∀ own e, Entry.place s.mode own e = .ok ⟨put own e, [e], []⟩)
    (hs : s.scope.Carries fun _ => True) (es : List Entry) :
    exec (placeEach es) s =
      (.ok es, { s with scope := s.scope.refill (es.foldl put s.scope.entries) }) := by
  induction es generalizing s with
  | nil => rw [List.foldl_nil, hs.refill_entries]; rfl
  | cons e es ih =>
    have hrefill : (s.scope.refill (put s.scope.entries e)).Carries fun _ => True :=
      hs.refill fun _ _ _ _ => trivial
    rw [placeEach, exec_bind, exec_place_carries hs, hput]
    dsimp only
    rw [exec_bind, List.append_nil, ih (s := { s with scope := s.scope.refill _ }) hput hrefill]
    dsimp only
    rw [hs.entries_refill, Scope.refill_refill]
    rfl

/-- The entries of a statement are placed one after the other, unless redefinitions are errors. -/
theorem exec_placeAll_foldl {put : List Entry → Entry → List Entry} {s : ReadState}
    (hm : s.mode ≠ .error)
    (hput : ∀ own e, Entry.place s.mode own e = .ok ⟨put own e, [e], []⟩)
    (hs : s.scope.Carries fun _ => True) (es : List Entry) :
    exec (placeAll es) s =
      (.ok es, { s with scope := s.scope.refill (es.foldl put s.scope.entries) }) := by
  rw [placeAll, exec_bind, exec_get]
  dsimp only
  rw [if_neg hm]
  exact exec_placeEach_foldl hput hs es

theorem exec_placeAll_retain {s : ReadState} (hm : s.mode = .retain)
    (hs : s.scope.Carries fun _ => True) (es : List Entry) : exec (placeAll es) s =
      (.ok es, { s with scope := s.scope.refill (s.scope.entries ++ es) }) := by
  have happended : es.foldl (fun own e => own ++ [e]) s.scope.entries = s.scope.entries ++ es := by
    rw [List.foldl_append_eq_append, ← List.flatMap_def, List.flatMap_singleton']
  rw [exec_placeAll_foldl (by rw [hm]; exact InputMode.noConfusion)
    (by rw [hm]; exact Entry.place_retain) hs, happended]

/-- Up to a pattern or a change of the mode, redefined entries are shadowed or removed. -/
theorem Setup.overwriting (setup : Setup) :
    Courses .unstopped
      ((Framing.rooted Framing.unshadowing).link .unstopped InputMode.Overwriting)
      (.freely False) (.either .quoted (.modes setup.registry)) Unshadow
      (setup.inMode .retain) (setup.inMode .overwrite) := by
  have hpatterns (k : Heading) (hk : (Vocabulary.freely False).Heads k) : k.isPattern = false :=
    Bool.eq_false_iff.mpr hk
  refine Framing.courses (fun _ => trivial) rfl (fun _ name hf => Watch.stopped_within hf name)
    ?_ (fun _ _ _ => ⟨rfl, rfl⟩) ?_ rfl rfl (.inl rfl) (.inl rfl) ?_ ?_ ?_ ?_ ?_
  · rintro log _ event rfl
    rfl
  · intro n t s ht hw
    rw [Watch.either, Watch.quoted, ht] at hw
    contradiction
  · intro fs fs' hf name
    exact .inl (Framing.rooted_finds _ (fun _ _ => Unshadow.corresponds) hf name)
  · intro es es' h
    rw [h.eq, failure?_of_plain h.plain, failure?_of_plain h.plain.unshadowedAll]
  · intro x e e' h
    obtain ⟨he, rfl⟩ := Unshadow.of_alike hpatterns h
    refine Framing.placing (by rintro log _ events rfl; rfl) fun es es' mode mode' hes hmode => ?_
    obtain ⟨rfl, rfl⟩ := hmode
    rw [Framing.membersOf_unshadowing] at hes ⊢
    rw [Entry.place_retain, Entry.place_overwrite]
    refine .ok ⟨⟨forall_mem_concat hes.plain he, ?_⟩, rfl⟩
    rw [unshadowedAll_concat, hes.eq]
  · intro x es es' h
    refine ⟨?_, fun _ ha => by contradiction⟩
    rintro ⟨scope, mode, log⟩ ⟨scope', mode', log'⟩ ⟨hscope, ⟨rfl, rfl⟩, rfl⟩
    obtain ⟨hmade, hmade'⟩ := hscope.made
    rw [exec_placeAll_retain rfl hmade,
      exec_placeAll_foldl InputMode.noConfusion Entry.place_overwrite hmade']
    refine .ok trivial ⟨hscope.refill ?_, ⟨rfl, rfl⟩, rfl⟩
    have hown := hscope.entries
    rw [Framing.membersOf_unshadowing] at hown ⊢
    dsimp only
    rw [h.eq, hown.eq, ← unshadowedAll_append]
    exact .of_plain (List.forall_mem_append.mpr ⟨hown.plain, h.plain⟩)
  · intro n t name ht hd hw
    rw [Watch.either, Watch.modes_directive (r := setup.registry) ht hd, Bool.or_true] at hw
    contradiction

namespace Entry

/-- The entry that a scoped name denotes in a dictionary that no other is around. -/
def scoped? (e : Entry) (name : String) : Option Entry :=
  Lookup.scopedEntry inspection [⟨e.inner?.getD [], false⟩] name

/-- Both entries have the same tokens, or both are dictionaries. -/
abbrev SameKind : Entry → Entry → Prop := Alike Any (fun _ => True) Any

theorem Alike.sameKind {heading : Heading → Heading → Prop} {value : List Token → Prop}
    {contents : List Entry → List Entry → Prop} {e e' : Entry}
    (h : Alike heading value contents e e') : SameKind e e' := by
  cases h with
  | primitive => exact .primitive trivial trivial
  | dictionary => exact .dictionary trivial trivial

end Entry

namespace Reader

variable {setup : Setup} {i : Input}

/-- If no pattern stands as a keyword and the mode is not changed, shadowed entries cannot be
observed: a read that removes them fails as one does that retains them, and where it does not fail
names denote the same kinds of entries with the same tokens, and the value is the same up to the
order of keys. -/
theorem overwrite_of_retain
    (ha : (setup.inMode .retain).Avoids (.either .quoted (.modes setup.registry)) i) :
    (∀ f, (read (setup.inMode .retain) i).1 = .error f ↔
      (read (setup.inMode .overwrite) i).1 = .error f) ∧
    ∀ e, (read (setup.inMode .retain) i).1 = .ok e →
      ∃ e', (read (setup.inMode .overwrite) i).1 = .ok e' ∧
        (∀ name, Option.Rel SameKind (e.scoped? name) (e'.scoped? name)) ∧
        e.value.Similar e'.value := by
  have hends := Framing.read_ends (i := i) _ setup.overwriting rfl (.inl rfl)
    ⟨fun _ _ => trivial, fun _ _ => trivial⟩ ⟨rfl, rfl⟩ rfl
  have hread := read_of_avoids ha
  unfold Setup.Avoids at ha
  rw [← hread]
  generalize Watched.read (.either .quoted (.modes setup.registry)) (setup.inMode .retain) i = p,
    read (setup.inMode .overwrite) i = q at ha hends ⊢
  cases hends with
  | parted hf => exact absurd (congrArg Except.error hf) ha
  | error => exact ⟨fun _ => Iff.rfl, fun e he => by contradiction⟩
  | ok hsame =>
    obtain ⟨line, es, es', rfl, rfl, hes⟩ := hsame
    refine ⟨fun f => ⟨fun h => by contradiction, fun h => by contradiction⟩, fun e he => ?_⟩
    obtain rfl := Except.ok.inj he
    refine ⟨_, rfl, fun name => ?_, ?_⟩
    · have haround : (Framing.rooted Framing.unshadowing).around [⟨es, false⟩] [⟨es', false⟩] :=
        .cons ⟨rfl, hes⟩ .nil
      have hfind := Framing.rooted_finds _ (fun _ _ => Unshadow.corresponds) haround name
      show Option.Rel SameKind (Lookup.scopedEntry inspection [⟨es, false⟩] name)
        (Lookup.scopedEntry inspection [⟨es', false⟩] name)
      generalize Lookup.scopedEntry inspection [⟨es, false⟩] name = found,
        Lookup.scopedEntry inspection [⟨es', false⟩] name = found' at hfind
      cases hfind with
      | none => exact .none
      | some h => exact .some h.sameKind
    · rw [hes.eq]
      exact value_similar (.dictionary _ es)

/-- Entries that are defined twice, and a reference to one of them. -/
def shadowing : Input := .ofTokens "t" [⟨.word "d", 1⟩, ⟨.opener .brace, 1⟩, ⟨.word "x", 1⟩,
  ⟨.number (.int 1), 1⟩, ⟨.terminator, 1⟩, ⟨.word "x", 1⟩, ⟨.number (.int 2), 1⟩, ⟨.terminator, 1⟩,
  ⟨.closer .brace, 1⟩, ⟨.word "x", 2⟩, ⟨.number (.int 3), 2⟩, ⟨.terminator, 2⟩, ⟨.reference "d", 3⟩,
  ⟨.terminator, 3⟩, ⟨.word "y", 4⟩, ⟨.reference "x", 4⟩, ⟨.terminator, 4⟩]

/-- The shadowed entries of a dictionary are spliced too. -/
theorem overwrite_of_spliced :
    (bareSetup.inMode .retain).Avoids (.either .quoted (.modes bareSetup.registry)) shadowing ∧
    ∃ e e', (read (bareSetup.inMode .retain) shadowing).1 = .ok e ∧
      (read (bareSetup.inMode .overwrite) shadowing).1 = .ok e' ∧
      (e.inner?.getD []).length = 5 ∧ (e'.inner?.getD []).length = 3 ∧
      (∀ name, Option.Rel SameKind (e.scoped? name) (e'.scoped? name)) ∧
      e.value.Similar e'.value := by
  have hread : (read (bareSetup.inMode .retain) shadowing).1 = .ok (.dictionary ⟨"t", false, 1, 4⟩
      [.dictionary ⟨"d", false, 1, 1⟩ [.primitive ⟨"x", false, 1, 1⟩ [⟨.number (.int 1), 1⟩],
          .primitive ⟨"x", false, 1, 1⟩ [⟨.number (.int 2), 1⟩]],
        .primitive ⟨"x", false, 2, 2⟩ [⟨.number (.int 3), 2⟩],
        .primitive ⟨"x", false, 1, 1⟩ [⟨.number (.int 1), 1⟩],
        .primitive ⟨"x", false, 1, 1⟩ [⟨.number (.int 2), 1⟩],
        .primitive ⟨"y", false, 4, 4⟩ [⟨.number (.int 2), 1⟩]]) := by cbv
  have hwatched : (Watched.read (.either .quoted (.modes bareSetup.registry))
      (bareSetup.inMode .retain) shadowing).1 = (read (bareSetup.inMode .retain) shadowing).1 := by
    rw [hread]
    cbv
  have havoids : (bareSetup.inMode .retain).Avoids (.either .quoted (.modes bareSetup.registry))
      shadowing := by
    rw [Setup.Avoids, hwatched, hread]
    simp
  obtain ⟨-, hok⟩ := overwrite_of_retain havoids
  obtain ⟨e', he', hlookup, hvalue⟩ := hok _ hread
  have hoverwritten : (read (bareSetup.inMode .overwrite) shadowing).1 =
      .ok (.dictionary ⟨"t", false, 1, 4⟩
        [.dictionary ⟨"d", false, 1, 1⟩ [.primitive ⟨"x", false, 1, 1⟩ [⟨.number (.int 2), 1⟩]],
          .primitive ⟨"x", false, 1, 1⟩ [⟨.number (.int 2), 1⟩],
          .primitive ⟨"y", false, 4, 4⟩ [⟨.number (.int 2), 1⟩]]) := by cbv
  have hlength : (e'.inner?.getD []).length = 3 := by
    rw [← Except.ok.inj (hoverwritten.symm.trans he')]
    rfl
  exact ⟨havoids, _, e', hread, he', rfl, hlength, hlookup, hvalue⟩

end Reader

end CaseDict
