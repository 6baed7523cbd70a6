import CaseDict.Proofs.Framing
/-! # Dictionaries that differ in where an entry ends

Two dictionaries may be the same but for the line that one of their entries ends on
(`SameButEnd`). Names denote the same in them and entries are placed in them alike, so that reading
on in the one and in the other takes the same course (`SameButEnd.courses`). -/

namespace CaseDict

open Expansion Statement Entry

theorem Heading.ButEnd.refl (h : Heading) : h.ButEnd h := rfl

theorem Heading.ButEnd.trans {h k l : Heading} (hk : h.ButEnd k) (hl : k.ButEnd l) :
    h.ButEnd l := by
  unfold ButEnd at hk hl ⊢
  rw [hl, hk]

theorem Heading.ButEnd.symm {h k : Heading} (hk : h.ButEnd k) : k.ButEnd h := by
  unfold ButEnd at hk ⊢
  rw [hk]

/-- A merged dictionary keeps its heading but for the end. -/
theorem Heading.butEnd_mergedHead (own other : Heading) : own.ButEnd (mergedHead own other) := by
  unfold mergedHead
  split <;> rfl

namespace Entry

/-- The entries differ at most in the line that they end on. -/
def ButEnd (e e' : Entry) : Prop := ∃ endLine, e' = e.withHead { e.head with endLine }

namespace ButEnd

variable {e e' old : Entry}

theorem refl (e : Entry) : e.ButEnd e := ⟨e.head.endLine, by cases e <;> rfl⟩

theorem head (h : e.ButEnd e') : e.head.ButEnd e'.head := by
  obtain ⟨endLine, rfl⟩ := h
  cases e <;> rfl

theorem keyword (h : e.ButEnd e') : e'.keyword = e.keyword := by
  obtain ⟨endLine, rfl⟩ := h
  cases e <;> rfl

theorem startLine (h : e.ButEnd e') : e'.head.startLine = e.head.startLine := by
  obtain ⟨endLine, rfl⟩ := h
  cases e <;> rfl

theorem isDictionary (h : e.ButEnd e') : e'.isDictionary = e.isDictionary := by
  obtain ⟨endLine, rfl⟩ := h
  cases e <;> rfl

/-- What holds of plain keywords and patterns holds of both. -/
theorem head_eq {α : Type} (h : e.ButEnd e') {f : Heading → α}
    (hf : ∀ (k : Heading) endLine, f { k with endLine } = f k) : f e'.head = f e.head := by
  have hh := h.head
  unfold Heading.ButEnd at hh
  rw [hh, hf]

theorem alike {heading : Heading → Heading → Prop} {V : List Token → Prop} (h : e.ButEnd e')
    (hh : ∀ k k' : Heading, k.ButEnd k' → heading k k') (he : e.Carries V) :
    Alike heading V (SameCarry V) e e' := by
  have hhead := hh _ _ h.head
  obtain ⟨endLine, rfl⟩ := h
  cases e with
  | primitive => exact .primitive hhead (carries_primitive.mp he)
  | dictionary => exact .dictionary hhead ⟨rfl, carries_dictionary.mp he⟩

/-- Merging into entries that end elsewhere. -/
theorem merge_left (h : e.ButEnd e') (other : Entry) : (e.merge other).ButEnd (e'.merge other) := by
  obtain ⟨endLine, rfl⟩ := h
  cases e with
  | primitive => exact ⟨endLine, rfl⟩
  | dictionary k es =>
    cases other with
    | primitive => exact ⟨endLine, rfl⟩
    | dictionary k' es' =>
      refine ⟨(mergedHead { k with endLine } k').endLine, ?_⟩
      unfold Entry.merge Entry.withHead mergedHead
      dsimp only [Entry.head]
      split <;> rfl

/-- Merging entries that end elsewhere. -/
theorem merge_right (h : e.ButEnd e') : (old.merge e).ButEnd (old.merge e') := by
  obtain ⟨endLine, rfl⟩ := h
  cases old with
  | primitive k ts => exact .refl _
  | dictionary k es =>
    cases e with
    | primitive => exact .refl _
    | dictionary k' es' =>
      refine ⟨(mergedHead k { k' with endLine }).endLine, ?_⟩
      unfold Entry.merge Entry.withHead mergedHead
      dsimp only [Entry.head]
      split <;> split <;> rfl

theorem head_merge (old other : Entry) : old.head.ButEnd (old.merge other).head := by
  cases old with
  | primitive => rfl
  | dictionary k es =>
    cases other with
    | primitive => rfl
    | dictionary k' es' => exact Heading.butEnd_mergedHead k k'

end ButEnd

end Entry

/-- The entries are the same, but one under the heading `h` may end on another line. -/
inductive SameButEnd (h : Heading) : List Entry → List Entry → Prop
  | nil : SameButEnd h [] []
  | ending {e e' : Entry} (es : List Entry) (hh : h.ButEnd e.head) (he : e.ButEnd e') :
      SameButEnd h (e :: es) (e' :: es)
  | cons (e : Entry) {es es' : List Entry} (hes : SameButEnd h es es') :
      SameButEnd h (e :: es) (e :: es')

namespace SameButEnd

variable {h : Heading} {es es' : List Entry} {e e' : Entry}

theorem refl (es : List Entry) : SameButEnd h es es := by
  induction es with
  | nil => exact .nil
  | cons e es ih => exact .cons e ih

theorem forall₂ (hes : SameButEnd h es es') : List.Forall₂ Entry.ButEnd es es' := by
  have hrefl (es : List Entry) : List.Forall₂ Entry.ButEnd es es := by
    induction es with
    | nil => exact .nil
    | cons e es ih => exact .cons (.refl e) ih
  induction hes with
  | nil => exact .nil
  | ending es _ he => exact .cons he (hrefl es)
  | cons e _ ih => exact .cons (.refl e) ih

theorem append_right (hes : SameButEnd h es es') (more : List Entry) :
    SameButEnd h (es ++ more) (es' ++ more) := by
  induction hes with
  | nil => exact .refl more
  | ending es hh he => exact .ending (es ++ more) hh he
  | cons e _ ih => exact .cons e ih

theorem append_left (before : List Entry) (hes : SameButEnd h es es') :
    SameButEnd h (before ++ es) (before ++ es') := by
  induction before with
  | nil => exact hes
  | cons e before ih => exact .cons e ih

theorem filter (hes : SameButEnd h es es') (keep : String → Bool) :
    SameButEnd h (es.filter fun e => keep e.keyword) (es'.filter fun e => keep e.keyword) := by
  induction hes with
  | nil => exact .nil
  | @ending e e' es hh he =>
    rw [List.filter_cons, List.filter_cons, he.keyword]
    split
    · exact .ending _ hh he
    · exact .refl _
  | cons e _ ih =>
    rw [List.filter_cons, List.filter_cons]
    split
    · exact .cons e ih
    · exact ih

theorem firstLines (hes : SameButEnd h es es') :
    Entry.firstLines es = Entry.firstLines es' := by
  unfold Entry.firstLines
  induction hes with
  | nil => rfl
  | ending es _ he => rw [List.map_cons, List.map_cons, he.keyword, he.startLine]
  | cons e _ ih => rw [List.map_cons, List.map_cons, ih]

/-- The last entry of a kind that does not depend on where entries end. -/
theorem find?_reverse (hes : SameButEnd h es es') {p : Entry → Bool}
    (hp : ∀ e e' : Entry, e.ButEnd e' → p e' = p e) :
    Option.Rel Entry.ButEnd (es.reverse.find? p) (es'.reverse.find? p) := by
  have hrev := List.forall₂_reverse_iff.mpr hes.forall₂
  generalize es.reverse = l, es'.reverse = l' at hrev
  induction hrev with
  | nil => exact .none
  | @cons e e' l l' he _ ih =>
    rw [List.find?_cons, List.find?_cons, hp e e' he]
    cases p e with
    | true => exact .some he
    | false => exact ih

theorem newest? (hes : SameButEnd h es es') (keyword : String) :
    Option.Rel Entry.ButEnd (Entry.newest? keyword es) (Entry.newest? keyword es') :=
  hes.find?_reverse fun e e' he => by rw [he.keyword]

/-- A name denotes the same. -/
theorem find (hes : SameButEnd h es es') (name : String) : Option.Rel Entry.ButEnd
    (Lookup.find inspection name es) (Lookup.find inspection name es') := by
  have hnamed := hes.find?_reverse (p := fun e => e.head.isNamed name)
    fun e e' he => he.head_eq (f := fun k => k.isNamed name) fun _ _ => rfl
  have hmatched := hes.find?_reverse (p := fun e => e.head.isMatched name)
    fun e e' he => he.head_eq (f := fun k => k.isMatched name) fun _ _ => rfl
  unfold Lookup.find Lookup.findNamed Lookup.findMatched inspection
  dsimp only
  generalize es.reverse.find? _ = found, es'.reverse.find? _ = found' at hnamed
  cases hnamed with
  | none => exact hmatched
  | some he => exact .some he

/-! ### Placing entries -/

/-- The last entry of a kind is changed alike. -/
theorem changeLast (hes : SameButEnd h es es') {change : Entry → Option Entry}
    (hc : ∀ e e' : Entry, e.ButEnd e' → Option.Rel Entry.ButEnd (change e) (change e'))
    (hh : ∀ e new, change e = some new → e.head.ButEnd new.head) :
    Option.Rel (SameButEnd h) (Entry.changeLast change es) (Entry.changeLast change es') := by
  have hself (es : List Entry) :
      Option.Rel (SameButEnd h) (Entry.changeLast change es) (Entry.changeLast change es) := by
    cases Entry.changeLast change es with
    | none => exact .none
    | some es => exact .some (.refl es)
  induction hes with
  | nil => exact hself []
  | @ending e e' es hk he =>
    have hchanged := hc e e' he
    have hhead := hh e
    unfold Entry.changeLast
    generalize change e = found, change e' = found' at hchanged hhead
    cases Entry.changeLast change es with
    | some rest => exact .some (.ending rest hk he)
    | none =>
      cases hchanged with
      | none => exact .none
      | some he => exact .some (.ending es (hk.trans (hhead _ rfl)) he)
  | @cons e es es' hes ih =>
    unfold Entry.changeLast
    generalize Entry.changeLast change es = found, Entry.changeLast change es' = found' at ih
    cases ih with
    | some hrest => exact .some (.cons e hrest)
    | none =>
      dsimp only
      cases change e with
      | none => exact .none
      | some new => exact .some (.cons new hes)

theorem mergeNewest (hes : SameButEnd h es es') (e : Entry) :
    SameButEnd h (e.mergeNewest es) (e.mergeNewest es') := by
  have hmerges (old old' : Entry) (hold : old.ButEnd old') : Option.Rel Entry.ButEnd
      (if old.keyword = e.keyword then some (old.merge e) else none)
      (if old'.keyword = e.keyword then some (old'.merge e) else none) := by
    rw [hold.keyword]
    split
    · exact .some (hold.merge_left e)
    · exact .none
  have hheads (old new : Entry)
      (hnew : (if old.keyword = e.keyword then some (old.merge e) else none) = some new) :
      old.head.ButEnd new.head := by
    split at hnew
    · obtain rfl := Option.some.inj hnew
      exact ButEnd.head_merge old e
    · contradiction
  have hchanged := hes.changeLast hmerges hheads
  unfold Entry.mergeNewest
  generalize Entry.changeLast _ es = found, Entry.changeLast _ es' = found' at hchanged
  cases hchanged with
  | none => exact hes
  | some hes => exact hes

/-- An entry is placed alike. -/
theorem place (hes : SameButEnd h es es') (mode : InputMode) (e : Entry) :
    (Link.same : Link (List Event)).Meets
      (fun p p' => SameButEnd h p.entries p'.entries ∧ p.events = p'.events)
      (e.place mode es) (e.place mode es') := by
  unfold Entry.place
  have hnewest := hes.newest? e.keyword
  generalize Entry.newest? e.keyword es = found, Entry.newest? e.keyword es' = found' at hnewest
  cases hnewest with
  | none => exact .ok ⟨hes.append_right [e], rfl⟩
  | some hold =>
    dsimp only
    rw [hold.isDictionary, hold.startLine]
    split
    · exact .ok ⟨hes.append_right [e], rfl⟩
    · exact .ok ⟨hes.mergeNewest e, rfl⟩
    · exact .ok ⟨(hes.filter (· != e.keyword)).append_right [e], rfl⟩
    · exact .ok ⟨hes, rfl⟩
    · exact .error trivial

end SameButEnd

namespace Entry

variable {es : List Entry} {e e' old : Entry}

theorem changeLast_append {change : Entry → Option Entry} {before after : List Entry} {new : Entry}
    (hnew : change old = some new) (hafter : ∀ x ∈ after, change x = none) :
    changeLast change (before ++ old :: after) = some (before ++ new :: after) := by
  have hnone : changeLast change after = none := by
    induction after with
    | nil => rfl
    | cons x after ih =>
      obtain ⟨hx, hafter⟩ := List.forall_mem_cons.mp hafter
      rw [changeLast, ih hafter, hx]
      rfl
  induction before with
  | nil =>
    rw [List.nil_append, changeLast, hnone, hnew]
    rfl
  | cons x before ih => rw [List.cons_append, changeLast, ih]; rfl

/-- The newest entry that passes a test, and those before and behind it. -/
theorem exists_of_find?_reverse {q : Entry → Bool} (h : es.reverse.find? q = some e) :
    ∃ before after, es = before ++ e :: after ∧ q e = true ∧ ∀ x ∈ after, q x = false := by
  obtain ⟨hq, after, before, hsplit, hafter⟩ := List.find?_eq_some_iff_append.mp h
  refine ⟨before.reverse, after.reverse, ?_, hq, fun x hx => ?_⟩
  · rw [← List.reverse_reverse es, hsplit]
    simp
  · simpa using hafter x (List.mem_reverse.mp hx)

/-- An entry is merged into the newest of its keyword. -/
theorem mergeNewest_append {before after : List Entry} (hk : (old.keyword == e.keyword) = true)
    (hafter : ∀ x ∈ after, (x.keyword == e.keyword) = false) :
    e.mergeNewest (before ++ old :: after) = before ++ old.merge e :: after := by
  rw [mergeNewest, changeLast_append (if_pos (beq_iff_eq.mp hk)), Option.getD_some]
  exact fun x hx => if_neg (beq_eq_false_iff_ne.mp (hafter x hx))

/-- Merging changes the newest entry of the keyword. -/
theorem mergeNewest_of_newest? {keyword : String} (h : newest? keyword es = some old) :
    ∃ before after, es = before ++ old :: after ∧ ∀ e : Entry, e.keyword = keyword →
      e.mergeNewest es = before ++ old.merge e :: after := by
  obtain ⟨before, after, rfl, hk, hafter⟩ := exists_of_find?_reverse h
  refine ⟨before, after, rfl, fun e he => ?_⟩
  subst he
  exact mergeNewest_append hk hafter

/-- An entry that ends elsewhere is placed alike, and makes no other difference. -/
theorem place_butEnd {mode : InputMode} {p : Placed} (he : e.ButEnd e')
    (hp : e.place mode es = .ok p) : ∃ p', e'.place mode es = .ok p' ∧ p'.events = p.events ∧
      (p'.entries = p.entries ∨ ∃ old ∈ p.placed, SameButEnd old.head p.entries p'.entries) := by
  have happend (es : List Entry) : SameButEnd e.head (es ++ [e]) (es ++ [e']) :=
    .append_left es (.ending [] (.refl _) he)
  unfold Entry.place at hp ⊢
  rw [he.keyword, he.isDictionary]
  cases hn : newest? e.keyword es with
  | none =>
    rw [hn] at hp
    cases hp
    exact ⟨_, rfl, rfl, .inr ⟨e, List.mem_singleton_self e, happend es⟩⟩
  | some old =>
    rw [hn] at hp
    dsimp only at hp ⊢
    split at hp
    · cases hp
      exact ⟨_, rfl, rfl, .inr ⟨e, List.mem_singleton_self e, happend es⟩⟩
    · cases hp
      refine ⟨_, rfl, rfl, .inr ⟨old.merge e, List.mem_singleton_self _, ?_⟩⟩
      obtain ⟨before, after, -, hmerge⟩ := mergeNewest_of_newest? hn
      rw [hmerge e rfl, hmerge e' he.keyword]
      exact .append_left before (.ending after (.refl _) he.merge_right)
    · cases hp
      exact ⟨_, rfl, rfl, .inr ⟨e, List.mem_singleton_self e, happend _⟩⟩
    · cases hp
      refine ⟨_, rfl, ?_, .inl rfl⟩
      unfold Heading.ignored
      rw [← Entry.keyword, ← Entry.keyword, he.keyword, he.startLine]
    · contradiction

end Entry

/-! ### Reading on -/

namespace SameButEnd

/-- Dictionaries whose entries are the same but for the end of one under the heading `h`; what is
inside is the same. -/
def root (h : Heading) : Framing.Root where
  outer es es' := SameButEnd h es es' ∧ AllCarry Token.AllLiteral es
  inner := SameCarry Token.AllLiteral
  nil := .nil _
  filter := @SameCarry.filter _
  filter_outer he keep := ⟨he.1.filter keep, forall_mem_filter he.2 _⟩
  outer_of_inner he := ⟨he.1 ▸ .refl _, he.2⟩

theorem root_finds {h : Heading} {es es' : List Entry} (hes : (root h).outer es es') :
    Lookup.Corresponds ((Vocabulary.freely True).Finds (root h).inner) es es' := by
  intro name
  have hfind := hes.1.find name
  have hmem (e : Entry) (he : Lookup.find inspection name es = some e) :
      e.Carries Token.AllLiteral := hes.2 e (Lookup.mem_of_find he)
  generalize Lookup.find inspection name es = found, Lookup.find inspection name es' = found'
    at hfind hmem
  cases hfind with
  | none => exact .none
  | some he => exact .some (he.alike (fun _ _ hh => ⟨hh, fun _ => trivial⟩) (hmem _ rfl))

theorem root_place {h : Heading} (x : Scope.Kind) {e : Entry} (he : e.Carries Token.AllLiteral) :
    Follows ((Framing.rooted (root h)).link Link.same Eq x) (Statement.place e)
      (Statement.place e) Any := by
  refine Framing.placing (fun _ _ _ hl => congrArg (· ++ _) hl) ?_
  rintro es es' mode _ hes rfl
  have hinside (hsame : SameCarry Token.AllLiteral es es') : (Link.same : Link (List Event)).Meets
      (fun p p' => SameCarry Token.AllLiteral p.entries p'.entries ∧ p.events = p'.events)
      (e.place mode es) (e.place mode es') := by
    obtain ⟨rfl, hcarry⟩ := hsame
    exact .refl (fun p hp => ⟨⟨rfl, carries_hereditary.place hcarry he hp⟩, rfl⟩) fun _ _ => trivial
  cases x with
  | outermost =>
    exact (hes.1.place mode e).mono fun p p' hp _ hpp =>
      ⟨⟨hpp.1, carries_hereditary.place hes.2 he hp⟩, hpp.2⟩
  | dictionary => exact hinside hes
  | block => exact hinside hes

/-- Reading on takes the same course. -/
theorem courses (h : Heading) (setup : Setup) :
    Courses Link.same ((Framing.rooted (root h)).link Link.same Eq) (.freely True) .never
      (SameCarry Token.AllLiteral) setup setup := by
  refine Framing.courses (fun _ => trivial) rfl (fun _ _ hf => hf) (fun _ _ _ hl => hl ▸ rfl)
    Link.stops_never (fun _ _ _ _ _ => trivial) rfl rfl (.inl rfl) (.inl rfl)
    (fun fs fs' hf name => .inl (Framing.rooted_finds _ (fun _ _ => root_finds) hf name))
    (fun es es' hes => by rw [hes.1]) (fun x e e' hm => ?_) (fun x es es' hes => ?_)
    fun _ _ _ _ _ _ => ⟨rfl, fun _ => rfl⟩
  · obtain ⟨rfl, he⟩ := hm.same
    exact root_place x he
  · obtain ⟨rfl, hes⟩ := hes
    refine Framing.placingAll (fun _ => trivial) (fun _ _ hm => by rw [hm]) (fun es es' hes => ?_)
      (fun e => root_place x) hes
    cases x with
    | outermost => exact hes.1.firstLines
    | dictionary | block => rw [hes.1]

end SameButEnd

end CaseDict
