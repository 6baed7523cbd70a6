import CaseDict.Proofs.Tracking
import CaseDict.Proofs.Unlined
/-! # Reading tokens that stand on other lines

Inputs with the same symbols on other lines are read into dictionaries with the same entries, up to
their lines, from any two states that are the same up to lines. -/

namespace CaseDict

open Expansion Statement Entry

namespace Entry

/-- The entries differ in their lines only. -/
abbrev SameUnlined (e e' : Entry) : Prop := e'.unlined = e.unlined

/-- The entries differ in their lines only. -/
abbrev AllSameUnlined (es es' : List Entry) : Prop := unlinedAll es' = unlinedAll es

/-- How entries that differ in their lines only are made. -/
inductive Relined : Entry → Entry → Prop
  | primitive {h h' : Heading} {ts ts' : List Token} (hh : h'.unlined = h.unlined)
      (hts : Token.AllLike False ts ts') : Relined (.primitive h ts) (.primitive h' ts')
  | dictionary {h h' : Heading} {es es' : List Entry} (hh : h'.unlined = h.unlined)
      (hes : AllSameUnlined es es') : Relined (.dictionary h es) (.dictionary h' es')

theorem allLike_iff {ts ts' : List Token} :
    Token.AllLike False ts ts' ↔ ts'.map Token.unlined = ts.map Token.unlined := by
  have hlike (t t' : Token) : t.Like False t' ↔ t'.unlined = t.unlined := by
    refine ⟨fun h => ?_, fun h => ⟨(Token.mk.inj h).1, fun hf => hf.elim⟩⟩
    rw [Token.unlined, Token.unlined, h.symbol]
  constructor
  · intro h
    induction h with
    | nil => rfl
    | cons ht _ ih => rw [List.map_cons, List.map_cons, (hlike _ _).mp ht, ih]
  · intro h
    induction ts generalizing ts' with
    | nil =>
      obtain rfl := List.map_eq_nil_iff.mp h
      exact .nil
    | cons t ts ih =>
      obtain ⟨t', ts', rfl, ht, hts⟩ := List.map_eq_cons_iff.mp h
      exact .cons ((hlike _ _).mpr ht) (ih hts)

theorem relined_iff {e e' : Entry} : Relined e e' ↔ SameUnlined e e' := by
  constructor
  · rintro (⟨hh, hts⟩ | ⟨hh, hes⟩)
    · rw [SameUnlined, unlined, unlined, hh, allLike_iff.mp hts]
    · rw [SameUnlined, unlined, unlined, hh, hes]
  · intro h
    cases e <;> cases e' <;> simp only [SameUnlined, unlined, primitive.injEq, dictionary.injEq,
      reduceCtorEq] at h
    · exact .primitive h.1 (allLike_iff.mpr h.2)
    · exact .dictionary h.1 h.2

theorem allSameUnlined_iff {es es' : List Entry} :
    AllSameUnlined es es' ↔ List.Forall₂ SameUnlined es es' := by
  rw [AllSameUnlined, unlinedAll_eq_map, unlinedAll_eq_map, eq_comm, ← List.forall₂_eq_eq_eq,
    List.forall₂_map_left_iff, List.forall₂_map_right_iff]
  exact ⟨fun h => h.imp fun _ _ => Eq.symm, fun h => h.imp fun _ _ => Eq.symm⟩

theorem inner?_relined : ∀ e e', SameUnlined e e' →
    Option.Rel (Lookup.Corresponds SameUnlined) e.inner? e'.inner? := by
  intro e e' h
  cases relined_iff.mpr h with
  | primitive => exact .none
  | dictionary _ hes => exact .some (find_corresponds hes)

end Entry

/-- Two reads that make the same entries on other lines. -/
def Framing.relined : Framing.Placing :=
  Framing.rooted (.uniform AllSameUnlined rfl fun h keep => by rw [AllSameUnlined, filter_unlined,
    filter_unlined, h])

theorem Framing.membersOf_relined (x : Scope.Kind) :
    Framing.relined.membersOf x = AllSameUnlined := Framing.membersOf_rooted rfl

namespace Relined

/-- Nothing is said of the events. -/
abbrev reported (_ _ : List Event) : Prop := True

/-- The scopes are the same up to lines, and the modes are the same. -/
def Rel (x : Scope.Kind) (s s' : ReadState) : Prop :=
  Framing.relined.Rel x s.scope s'.scope ∧ s.mode = s'.mode ∧ reported s.log s'.log

/-- Two reads, up to lines, until the first one fails. -/
abbrev link (x : Scope.Kind) : Link ReadState := .loosely (Rel x)

theorem framing_link (x : Scope.Kind) :
    Framing.relined.link (.loosely reported) Eq x = link x := rfl

/-- The inputs have the same symbols. -/
abbrev Inputs (i i' : Input) : Prop := i.Like False i'

/-- What both have read, and what is left. -/
structure Leaves {α β : Type} {i i' : Input} (post : α → β → Prop) (p : Taken α i)
    (q : Taken β i') : Prop where
  result : post p.1 q.1
  rest : Inputs p.2.input q.2.input

variable {α β : Type} {setup : Setup} {x : Scope.Kind} {i i' : Input}

/-! ### Surroundings -/

theorem environmentTokens_relined (name text : String) (line line' : Int) :
    (Link.loosely reported).Meets (Token.AllLike False)
      (Surroundings.environmentTokens name text line)
      (Surroundings.environmentTokens name text line') := by
  unfold Surroundings.environmentTokens
  cases Lexer.tokens (Surroundings.textName name) text with
  | error f => exact .parted trivial rfl
  | ok ts =>
    refine .bind (show (Link.loosely reported).Meets Eq _ _ from .ok rfl) ?_
    rintro ts _ rfl
    split
    · exact .parted trivial rfl
    · refine .ok (List.forall₂_map_left_iff.mpr (List.forall₂_map_right_iff.mpr ?_))
      exact List.forall₂_same.mpr fun t _ => ⟨rfl, fun hf => hf.elim⟩

theorem scopedEntry_relined {fs fs' : List (Frame Entry)} (h : Framing.relined.around fs fs')
    (name : String) : Option.Rel SameUnlined (Lookup.scopedEntry inspection fs name)
      (Lookup.scopedEntry inspection fs' name) :=
  Lookup.scopedEntry_corresponds inner?_relined
    (h.imp fun _ _ hf => ⟨hf.1, find_corresponds hf.2⟩) name

theorem map_plainText {ts ts' : List Token} (h : Token.AllLike False ts ts') :
    ts.map Surroundings.plainText = ts'.map Surroundings.plainText := by
  induction h with
  | nil => rfl
  | cons ht _ ih =>
    rw [List.map_cons, List.map_cons, ih]
    unfold Surroundings.plainText
    rw [ht.symbol]

theorem surrounded {fs fs' : List (Frame Entry)} (h : Framing.relined.around fs fs')
    (environment : List (String × String)) :
    Tracking.SurroundedAlike False reported ⟨fs, environment⟩ ⟨fs', environment⟩ where
  tokens name line line' _ := by
    have hfind := scopedEntry_relined h name
    unfold Surroundings.tokens Surroundings.find?
    generalize Lookup.scopedEntry inspection fs name = found,
      Lookup.scopedEntry inspection fs' name = found' at hfind
    cases hfind with
    | none =>
      dsimp only [Surroundings.environmentText?]
      split
      · exact environmentTokens_relined _ _ _ _
      · exact .parted trivial rfl
    | some he =>
      cases relined_iff.mpr he with
      | primitive _ hts => exact .ok hts
      | dictionary => exact .parted trivial rfl
  text name line line' := by
    have hfind := scopedEntry_relined h name
    unfold Surroundings.text Surroundings.find?
    generalize Lookup.scopedEntry inspection fs name = found,
      Lookup.scopedEntry inspection fs' name = found' at hfind
    cases hfind with
    | none =>
      dsimp only [Surroundings.environmentText?]
      split
      · exact .ok rfl
      · exact .parted trivial rfl
    | some he =>
      cases relined_iff.mpr he with
      | primitive _ hts =>
        exact .ok (congrArg (" ".intercalate ·) (map_plainText hts))
      | dictionary => exact .parted trivial rfl

variable {act : Context → ExpandM α} {act' : Context → ExpandM β} {post : α → β → Prop}

/-- Expanding in the dictionaries around. -/
theorem expanding_relined (h : ∀ fs fs', Framing.relined.around fs fs' →
    Follows (.loosely reported) (act ⟨setup, fs⟩) (act' ⟨setup, fs'⟩) post) :
    Follows (link x) (expanding setup act) (expanding setup act') post := by
  rw [← framing_link]
  exact Framing.expanding h

theorem inDictionary_relined {m : ReadM α} {m' : ReadM β}
    (h : Follows (link .dictionary) m m' post) :
    Follows (link x) (inDictionary m) (inDictionary m')
      fun p q => post p.1 q.1 ∧ AllSameUnlined p.2 q.2 := by
  rw [← framing_link] at h ⊢
  exact Framing.inDictionary h

theorem inBlock_relined {m : ReadM α} {m' : ReadM β} (h : Follows (link (.block x)) m m' post) :
    Follows (link x) (inBlock m) (inBlock m')
      fun p q => post p.1 q.1 ∧ AllSameUnlined p.2 q.2 := by
  rw [← framing_link] at h ⊢
  exact Framing.inBlock h

/-! ### Placing and removing -/

theorem rescoping_relined {g : Scope → Scope}
    (h : ∀ s s', Framing.relined.Rel x s s' → Framing.relined.Rel x (g s) (g s')) :
    Follows (link x) (modify fun s => { s with scope := g s.scope })
      (modify fun s => { s with scope := g s.scope }) Any := by
  rw [← framing_link]
  exact Framing.rescoping h

theorem setting_relined (mode : InputMode) :
    Follows (link x) (modify fun s => { s with mode }) (modify fun s => { s with mode }) Any := by
  rw [← framing_link]
  exact Framing.setting rfl

theorem place_relined {e e' : Entry} (h : SameUnlined e e') :
    Follows (link x) (place e) (place e') Any := by
  rw [← framing_link]
  refine Framing.placing_reporting fun es es' mode mode' _ _ hes hmode _ => ?_
  rw [Framing.membersOf_relined] at hes ⊢
  subst hmode
  have hplace := place_unlined mode es' e'
  rw [hes, h, place_unlined mode es e] at hplace
  cases hp : e.place mode es with
  | error f => exact .parted trivial rfl
  | ok p =>
    cases hp' : e'.place mode es' with
    | error f =>
      rw [hp, hp'] at hplace
      contradiction
    | ok p' =>
      rw [hp, hp'] at hplace
      exact .ok ⟨(Option.some.inj hplace).symm, trivial⟩

theorem placeEach_relined {es es' : List Entry} (h : AllSameUnlined es es') :
    Follows (link x) (placeEach es) (placeEach es') Any := by
  replace h := allSameUnlined_iff.mp h
  induction h with
  | nil => exact .pure trivial
  | cons he _ ih =>
    unfold Statement.placeEach
    exact .bind (place_relined he) fun _ _ _ => .bind ih fun _ _ _ => .pure trivial

theorem keywords_relined {es es' : List Entry} (h : AllSameUnlined es es') :
    es'.map Entry.keyword = es.map Entry.keyword := by
  have hkeywords (es : List Entry) : (unlinedAll es).map Entry.keyword = es.map Entry.keyword := by
    rw [unlinedAll_eq_map, List.map_map]
    exact List.map_congr_left fun e _ => keyword_unlined e
  rw [← hkeywords, h, hkeywords]

theorem placeAll_relined {es es' : List Entry} (h : AllSameUnlined es es') :
    Follows (link x) (placeAll es) (placeAll es') Any where
  ends s s' hs := by
    have heach := (placeEach_relined h).ends s s' hs
    obtain ⟨hscope, hmode, -⟩ := hs
    have hmembers := hscope.entries
    rw [Framing.membersOf_relined] at hmembers
    unfold Statement.placeAll
    rw [exec_bind, exec_get, exec_bind, exec_get]
    dsimp only
    rw [hmode]
    split
    · rw [exec_bind, exec_lift, exec_bind, exec_lift]
      cases hc : checkNew (firstLines s.scope.entries) es with
      | error f => exact .parted trivial (.of_none rfl)
      | ok =>
        rw [checkNew_unlined ?_ ?_ hc]
        · exact heach
        · unfold firstLines
          rw [List.map_map, List.map_map]
          exact keywords_relined hmembers
        · exact keywords_relined h
    · exact heach
  stays _ ha := by contradiction

/-! ### Values, copies and entries -/

variable {budget : Nat}

theorem inlines {fs fs' : List (Frame Entry)} (h : Framing.relined.around fs fs')
    (hregistry : setup.registry = .standard) :
    Tracking.References False reported (reference ⟨setup, fs⟩ budget)
        (reference ⟨setup, fs'⟩ budget) ∧
      Tracking.Inlines False reported Inputs (inline ⟨setup, fs⟩ budget)
        (inline ⟨setup, fs'⟩ budget) := by
  obtain ⟨href, hin⟩ := Tracking.expansion_like (fun _ _ _ _ => trivial)
    (surrounded h setup.settings.environment) hregistry budget
  exact ⟨href, hin _ Input.tracks_like⟩

theorem failure?_relined {h h' : Heading} (hh : h'.unlined = h.unlined) :
    h'.failure?.isSome = h.failure?.isSome := by
  rw [← h'.failure?_unlined, hh, h.failure?_unlined]

theorem checked_relined {h h' : Heading} (hh : h'.unlined = h.unlined) :
    Follows (link x) (liftM h.checked) (liftM h'.checked) fun k k' => k'.unlined = k.unlined := by
  have hsome := failure?_relined hh
  refine .lift ?_
  unfold Heading.checked
  cases hf : h.failure? with
  | some f => exact .parted trivial rfl
  | none =>
    have hnone : h'.failure? = none := by simpa [hf] using hsome
    rw [hnone]
    exact .ok hh

theorem copy_relined {e e' : Entry} (h : SameUnlined e e') :
    (link x).Meets SameUnlined e.copy e'.copy := by
  have hsome := findSome?_failure?_unlined e'.headings
  rw [← headings_unlined, h, headings_unlined, findSome?_failure?_unlined] at hsome
  rw [Entry.copy_eq, Entry.copy_eq]
  cases hf : e.headings.findSome? Heading.failure? with
  | some f => exact .parted trivial rfl
  | none =>
    have hnone : e'.headings.findSome? Heading.failure? = none := by simpa [hf] using hsome.symm
    rw [hnone]
    exact .ok h

theorem copies_relined {es es' : List Entry} (h : AllSameUnlined es es') :
    Follows (link x) (es.mapM fun e => (liftM e.copy : ReadM Entry)) (es'.mapM fun e => liftM e.copy)
      AllSameUnlined where
  ends s s' hs := by
    have hsome := findSome?_failure?_unlined (headingsOf es')
    rw [← headingsOf_unlined, h, headingsOf_unlined, findSome?_failure?_unlined] at hsome
    rw [exec_copies, exec_copies]
    cases hf : (headingsOf es).findSome? Heading.failure? with
    | some f => exact .parted trivial (.of_none rfl)
    | none =>
      have hnone : (headingsOf es').findSome? Heading.failure? = none := by
        simpa [hf] using hsome.symm
      rw [hnone]
      exact .ok h hs
  stays _ ha := by contradiction

/-- The reads go on with what they find under a name. -/
theorem surroundings_relined {k : Surroundings → ReadM α} {k' : Surroundings → ReadM β}
    {post : α → β → Prop} (name : String)
    (hk : ∀ around around' : Surroundings,
      Option.Rel SameUnlined (around.find? name) (around'.find? name) →
        Follows (link x) (k around) (k' around') post) :
    Follows (link x) (surroundings setup >>= k) (surroundings setup >>= k') post where
  ends s s' hs := by
    have hrun (s : ReadState) :
        exec (surroundings setup) s = (.ok (s.surroundings setup), s) := rfl
    rw [exec_bind, exec_bind, hrun, hrun]
    exact (hk (s.surroundings setup) (s'.surroundings setup)
      (scopedEntry_relined hs.1.frames name)).ends s s' hs
  stays _ ha := by contradiction

theorem splice_relined (name : String) (t t' : Token) (hi : Inputs i i') :
    Follows (link x) (splice setup name t i) (splice setup name t' i')
      (Leaves AllSameUnlined) := by
  unfold Statement.splice
  refine surroundings_relined name fun around around' hfind => ?_
  unfold Surroundings.entry
  generalize around.find? name = target, around'.find? name = target' at hfind
  cases hfind with
  | none => exact (Stuck.throw _).bind.follows
  | some htarget =>
    cases relined_iff.mpr htarget with
    | primitive => exact (Stuck.throw _).follows
    | dictionary _ hes =>
      refine .taking_like hi ?_ fun u u' rest rest' hu hrest => ?_
      · exact .bind (copies_relined hes) fun es es' hes => .pure ⟨hes, hi⟩
      · obtain ⟨y, line⟩ := u
        obtain ⟨y', line'⟩ := u'
        obtain rfl : y' = y := hu.symbol
        cases y' with
        | terminator => exact .bind (copies_relined hes) fun es es' hes => .pure ⟨hes, hrest⟩
        | _ => exact .bind (copies_relined hes) fun es es' hes => .pure ⟨hes, hi⟩

theorem unlined_withHead {e e' : Entry} {h h' : Heading} (he : SameUnlined e e')
    (hh : h'.unlined = h.unlined) : SameUnlined (e.withHead h) (e'.withHead h') := by
  cases relined_iff.mpr he with
  | primitive _ hts => exact relined_iff.mp (.primitive hh hts)
  | dictionary _ hes => exact relined_iff.mp (.dictionary hh hes)

theorem copyDictionary_relined {h h' target target' : Heading} (hh : h'.unlined = h.unlined)
    (htarget : target'.unlined = target.unlined) {es es' : List Entry} (hes : AllSameUnlined es es')
    (name : String) (t t' : Token) (hi : Inputs i i') :
    Follows (link x) (copyDictionary h name t target es i)
      (copyDictionary h' name t' target' es' i') (Leaves SameUnlined) := by
  have hkeyword : h'.keyword = h.keyword := (Heading.mk.inj hh).1
  have hpattern : target'.isPattern = target.isPattern := (Heading.mk.inj htarget).2.1
  have hcopy : (link x).Meets SameUnlined
      (Entry.dictionary { target with keyword := h.keyword } es).copy
      (Entry.dictionary { target' with keyword := h'.keyword } es').copy := by
    refine copy_relined (relined_iff.mp (.dictionary ?_ hes))
    rw [Heading.unlined, Heading.unlined, hkeyword, hpattern]
  unfold Statement.copyDictionary
  refine .taking_like hi ?_ fun u u' rest rest' hu hrest => ?_
  all_goals
    extract_lets copied copied'
    have hcopied (p : Taken Int i) (p' : Taken Int i') (hp : Inputs p.2.input p'.2.input) :
        Follows (link x) (copied p) (copied' p') (Leaves SameUnlined) := by
      refine .bind (.lift hcopy) fun e e' he => .pure ⟨unlined_withHead he ?_, hp⟩
      have hhead := head_unlined e'
      rw [he, head_unlined] at hhead
      obtain ⟨hk, hp, -, -⟩ := Heading.mk.inj hhead
      rw [Heading.unlined, Heading.unlined, hk, hp]
  · exact hcopied (t.line, i.unread) (t'.line, i'.unread) hi
  · obtain ⟨y, line⟩ := u
    obtain ⟨y', line'⟩ := u'
    obtain rfl : y' = y := hu.symbol
    cases y' with
    | terminator => exact hcopied (line, rest.toRest) (line', rest'.toRest) hrest
    | _ => exact (Stuck.throw _).bind.follows

section Reading

variable (hregistry : setup.registry = .standard)

include hregistry

theorem argument_relined (hi : Inputs i i') : Follows (link x)
    (expanding setup fun c => readArgument (reference c budget) (inline c budget) i)
    (expanding setup fun c => readArgument (reference c budget) (inline c budget) i')
    (Leaves (Token.AllLike False)) := by
  refine expanding_relined fun fs fs' h => ?_
  obtain ⟨href, hin⟩ := inlines h hregistry
  exact (Tracking.readArgument_like Input.tracks_like href hin hi).mono
    fun p q hpq => ⟨hpq.result, hpq.rest⟩

theorem readTokens_relined (hi : Inputs i i') :
    Follows (link x) (readTokens setup budget i) (readTokens setup budget i')
      (Leaves fun p q => Token.AllLike False p.1 q.1) := by
  refine expanding_relined fun fs fs' h => ?_
  obtain ⟨href, hin⟩ := inlines h hregistry
  exact (Tracking.readValue_like Input.tracks_like href hin rfl hi).mono
    fun p q hpq => ⟨hpq.result.1, hpq.rest⟩

theorem readPrimitive_relined {h h' : Heading} (hh : h'.unlined = h.unlined) (hi : Inputs i i') :
    Follows (link x) (readEntry.readPrimitive setup budget h i)
      (readEntry.readPrimitive setup budget h' i') (Leaves SameUnlined) := by
  unfold Statement.readEntry.readPrimitive
  refine .bind (readTokens_relined hregistry hi) ?_
  rintro ⟨⟨ts, endLine⟩, rest⟩ ⟨⟨ts', endLine'⟩, rest'⟩ ⟨hts, hrest⟩
  refine .bind (checked_relined ?_) fun k k' hk => ?_
  · exact hh
  · exact .pure ⟨relined_iff.mp (.primitive hk hts), hrest⟩

/-! ### Statements -/

/-- Inputs with fewer than `size` tokens are read into the same, up to lines. -/
def Below (setup : Setup) (budget : Nat) (run : DirectiveRunner) (size : Nat) : Prop :=
  ∀ i i' : Input, i.size < size → Inputs i i' → ∀ x n stops (closing closing' : Option Heading),
    Option.Rel (fun h h' => h'.unlined = h.unlined) closing closing' →
      Follows (link x) (readEntries setup budget run n closing stops i)
        (readEntries setup budget run n closing' stops i')
        (Leaves (Option.Rel (Token.Like False)))

theorem readEntry_relined {run : DirectiveRunner} (hbelow : Below setup budget run i.size)
    (n : Nat) {h h' : Heading} (hh : h'.unlined = h.unlined) (hi : Inputs i i') :
    Follows (link x) (readEntry setup budget run n h i) (readEntry setup budget run n h' i')
      (Leaves SameUnlined) := by
  have hprimitive : Follows (link x) (readEntry.readPrimitive setup budget h i)
      (readEntry.readPrimitive setup budget h' i') (Leaves SameUnlined) :=
    readPrimitive_relined hregistry hh hi
  rw [readEntry.eq_def, readEntry.eq_def setup budget run n h']
  refine .taking_like hi ?_ fun u u' rest rest' hu hrest => ?_
  · refine .bind (checked_relined hh) fun k k' hk => .pure ⟨?_, hi⟩
    exact relined_iff.mp (.primitive hk .nil)
  · obtain ⟨y, line⟩ := u
    obtain ⟨y', line'⟩ := u'
    obtain rfl : y' = y := hu.symbol
    cases y' with
    | opener b =>
      cases b with
      | brace =>
        dsimp only
        split
        · exact (Stuck.throw _).bind.follows
        refine .bind (checked_relined hh) fun k k' hk => ?_
        refine .bind (inDictionary_relined (hbelow _ _ rest.lt hrest _ _ _ _ _ (.some hk))) ?_
        rintro ⟨⟨ending, more⟩, es⟩ ⟨⟨ending', more'⟩, es'⟩ ⟨⟨-, hmore⟩, hes⟩
        refine .pure ⟨relined_iff.mp (.dictionary ?_ hes), hmore⟩
        exact hk
      | round | square => exact hprimitive
    | reference name =>
      refine surroundings_relined name fun around around' hfind => ?_
      generalize around.find? name = target, around'.find? name = target' at hfind
      cases hfind with
      | none => exact hprimitive
      | some htarget =>
        cases relined_iff.mpr htarget with
        | primitive => exact hprimitive
        | dictionary hhead hes =>
          refine .bind (copyDictionary_relined hh hhead hes name _ _ hrest) ?_
          rintro ⟨e, more⟩ ⟨e', more'⟩ ⟨he, hmore⟩
          exact .pure ⟨he, hmore⟩
    | _ => exact hprimitive

omit hregistry in
/-- What directives bring is the same up to lines. -/
def Runs (run : DirectiveRunner) : Prop :=
  ∀ x n (t t' : Token) (i i' : Input), t.Like False t' → Inputs i i' →
    Follows (link x) (run n t i) (run n t' i') (Leaves AllSameUnlined)

section Statements

variable {run : DirectiveRunner} (hrun : Runs run)

include hrun

theorem readStatement_relined (hbelow : Below setup budget run i.size) (n : Nat) {t t' : Token}
    (ht : t.Like False t') (hi : Inputs i i') :
    Follows (link x) (readStatement setup budget run n t i) (readStatement setup budget run n t' i')
      (Leaves Any) := by
  rw [readStatement.eq_def, readStatement.eq_def setup budget run n t', hi.name]
  refine .adapt ?_ (fun _ _ => trivial) fun _ _ => trivial
  obtain ⟨y, line⟩ := t
  obtain ⟨y', line'⟩ := t'
  have hsame := ht.symbol
  obtain rfl : y' = y := hsame
  cases y' with
  | directive name =>
    refine .bind (hrun x n _ _ i i' ht hi) ?_
    rintro ⟨es, rest⟩ ⟨es', rest'⟩ ⟨hes, hrest⟩
    exact .bind (placeAll_relined hes) fun _ _ _ => .pure ⟨trivial, hrest⟩
  | reference name =>
    refine .bind (splice_relined name _ _ hi) ?_
    rintro ⟨es, rest⟩ ⟨es', rest'⟩ ⟨hes, hrest⟩
    exact .bind (placeAll_relined hes) fun _ _ _ => .pure ⟨trivial, hrest⟩
  | word s | quoted s =>
    refine .bind (readEntry_relined hregistry hbelow n ?_ hi) ?_
    · rfl
    rintro ⟨e, rest⟩ ⟨e', rest'⟩ ⟨he, hrest⟩
    exact .bind (place_relined he) fun _ _ _ => .pure ⟨trivial, hrest⟩
  | _ => exact (Stuck.throw _).follows

theorem below (size : Nat) : Below setup budget run size := by
  -- A statement and what comes after it are read from less input, those of a dictionary too.
  induction size with
  | zero => intro i i' h; omega
  | succ size ih =>
    intro i i' hlt hi x n stops closing closing' hclosing
    rw [readEntries.eq_def, readEntries.eq_def setup budget run n closing']
    refine .taking_like hi ?_ fun t t' rest rest' ht hrest => ?_
    · cases hclosing with
      | none => exact .pure ⟨.none, hi⟩
      | some => exact (Stuck.throw _).follows
    have hless := rest.lt
    have hsome : closing'.isSome = closing.isSome := by cases hclosing <;> rfl
    dsimp only
    rw [ht.symbol, hsome]
    split
    · split
      · exact .pure ⟨.some ht, hrest⟩
      · exact (Stuck.throw _).follows
    split
    · refine .bind (ih _ _ (by omega) hrest x n stops _ _ hclosing) ?_
      rintro ⟨ending, more⟩ ⟨ending', more'⟩ ⟨hending, hmore⟩
      exact .pure ⟨hending, hmore⟩
    split
    · exact .pure ⟨.some ht, hrest⟩
    · have hbelow : Below setup budget run rest.input.size := fun j j' hj => ih j j' (by omega)
      refine .bind (readStatement_relined hregistry hrun hbelow n ht hrest) ?_
      rintro ⟨_, more⟩ ⟨_, more'⟩ ⟨-, hmore⟩
      have hle := more.le
      refine .bind (ih (rest.onward more).input _ ?_ hmore x n stops _ _ hclosing) ?_
      · exact (by omega : more.input.size < size)
      rintro ⟨ending, last⟩ ⟨ending', last'⟩ ⟨hending, hlast⟩
      exact .pure ⟨hending, hlast⟩

end Statements

end Reading

/-! ### Directives -/

theorem skipBranch_relined {own : Directive} {t t' : Token} {allow : Bool} {inner : Nat}
    (hi : Inputs i i') :
    (link x).Meets (Leaves (Token.Like False)) (skipBranch own t allow inner i)
      (skipBranch own t' allow inner i') := by
  induction hn : i.size using Nat.strongRecOn generalizing i i' inner with
  | ind n ih =>
    rw [skipBranch.eq_def, skipBranch.eq_def own t' allow inner i']
    obtain ⟨f, hnext⟩ | ⟨found, found', hnext, hnext', hfound⟩ := hi.next
    · rw [hnext]
      exact .parted trivial rfl
    rw [hnext, hnext']
    cases hfound with
    | none => exact .parted trivial rfl
    | @some u u' rest rest' hu _ hrest =>
      dsimp -zeta only [bind, Except.bind]
      extract_lets skip skip'
      have hskip (inner : Nat) : (link x).Meets (Leaves (Token.Like False)) (skip inner)
          (skip' inner) := by
        refine .bind (ih _ (hn ▸ rest.lt) hrest rfl) ?_
        rintro ⟨ending, more⟩ ⟨ending', more'⟩ ⟨hending, hmore⟩
        exact .ok ⟨hending, hmore⟩
      have hotherwise : isOtherwise u' = isOtherwise u := by
        rw [isOtherwise, isOtherwise, hu.symbol]
      rw [hu.symbol, hotherwise]
      split
      · exact hskip _
      split
      · cases inner with
        | zero => exact .ok ⟨hu, hrest⟩
        | succ inner => exact hskip _
      split
      · split
        · exact .ok ⟨hu, hrest⟩
        · exact .parted trivial rfl
      · exact hskip _

/-- Conditionals are read alike if the statements in them are. -/
theorem conditional_relined
    {entries : List String → (i : Input) → ReadM (Taken (Option Token) i)}
    (he : ∀ x stops i i', Inputs i i' → Follows (link x) (entries stops i) (entries stops i')
      (Leaves (Option.Rel (Token.Like False))))
    (own : Directive) (t t' : Token) (taken : Bool) (hi : Inputs i i') :
    Follows (link x) (conditional entries own t taken i) (conditional entries own t' taken i')
      (Leaves AllSameUnlined) := by
  have hotherwise {t t' : Token} (ht : t.Like False t') : isOtherwise t' = isOtherwise t := by
    rw [isOtherwise, isOtherwise, ht.symbol]
  unfold Statement.conditional
  cases taken with
  | true =>
    refine .bind (inBlock_relined (he _ _ _ _ hi)) ?_
    rintro ⟨⟨ending, rest⟩, es⟩ ⟨⟨ending', rest'⟩, es'⟩ ⟨⟨hending, hrest⟩, hes⟩
    cases hending with
    | none => exact (Stuck.throw _).follows
    | some hending =>
      dsimp only
      rw [hotherwise hending]
      split
      · refine .bind (.lift (skipBranch_relined hrest)) ?_
        rintro ⟨_, more⟩ ⟨_, more'⟩ ⟨-, hmore⟩
        exact .pure ⟨hes, hmore⟩
      · exact .pure ⟨hes, hrest⟩
  | false =>
    refine .bind (.lift (skipBranch_relined hi)) ?_
    rintro ⟨ending, rest⟩ ⟨ending', rest'⟩ ⟨hending, hrest⟩
    dsimp only
    rw [hotherwise hending]
    split
    · refine .bind (inBlock_relined (he _ _ _ _ hrest)) ?_
      rintro ⟨⟨last, more⟩, es⟩ ⟨⟨last', more'⟩, es'⟩ ⟨⟨hlast, hmore⟩, hes⟩
      cases hlast with
      | none => exact (Stuck.throw _).follows
      | some hlast =>
        dsimp only
        rw [hotherwise hlast]
        split
        · exact (Stuck.throw _).follows
        · exact .pure ⟨hes, hmore⟩
    · exact .pure ⟨rfl, hrest⟩

omit setup in
theorem switch_relined {ts ts' : List Token} (h : Token.AllLike False ts ts') :
    Switch.ofTokens ts' = Switch.ofTokens ts := by
  cases h with
  | nil => rfl
  | @cons u u' _ _ hu hus =>
    obtain ⟨y, line⟩ := u
    obtain ⟨y', line'⟩ := u'
    obtain rfl : y' = y := hu.symbol
    cases hus <;> cases y' <;> rfl

theorem remove_relined (t t' : Token) {names names' : List Token}
    (h : Token.AllLike False names names') :
    Follows (link x) (remove t i names) (remove t' i' names') Any := by
  have hwanted : Removal.ofTokens names' = Removal.ofTokens names := by
    induction h with
    | nil => rfl
    | cons hu _ ih =>
      unfold Removal.ofTokens at ih ⊢
      rw [List.filterMap_cons, List.filterMap_cons, hu.symbol, ih]
  unfold Statement.remove
  rw [hwanted]
  dsimp only
  split
  · exact (Stuck.throw _).bind.follows
  · split
    · exact rescoping_relined fun _ _ hs => hs.removeThrough _
    · exact (Stuck.of_bind fun _ => .throw _).follows

theorem changeMode_relined (t t' : Token) (hi : Inputs i i') :
    Follows (link x) (changeMode setup t i) (changeMode setup t' i') (Leaves AllSameUnlined) := by
  unfold Statement.changeMode
  refine .expecting Input.tracks_like hi (fun a rest ha => ?_) fun a a' rest rest' ha _ hrest => ?_
  · obtain ⟨y, line⟩ := a
    cases y with
    | directive => exact .throw _
    | _ => contradiction
  have hset (mode : InputMode) : Follows (link x)
      (do modify fun s => { s with mode }; return (([] : List Entry), rest.toRest) : ReadM _)
      (do modify fun s => { s with mode }; return ([], rest'.toRest) : ReadM _)
      (Leaves AllSameUnlined) :=
    .bind (setting_relined mode) fun _ _ _ => .pure ⟨rfl, hrest⟩
  dsimp only
  rw [ha.symbol]
  split
  · split
    · exact hset _
    · split
      · exact hset _
      · exact (Stuck.throw _).bind.follows
  · exact (Stuck.throw _).follows

/-- What directives bring is the same up to lines. -/
theorem runs (hregistry : setup.registry = .standard) (budget : Nat) :
    Runs (runDirective setup budget) := by
  induction budget with
  | zero => exact fun _ _ _ _ _ _ _ _ => (Stuck.throw _).follows
  | succ budget ih =>
    intro x n t t' i i' ht hi
    unfold Statement.runDirective
    extract_lets entries argument
    have he (x : Scope.Kind) (stops : List String) (i i' : Input) (hi : Inputs i i') :
        Follows (link x) (entries none stops i) (entries none stops i')
          (Leaves (Option.Rel (Token.Like False))) :=
      below hregistry ih _ i i' (Nat.lt_succ_self _) hi x n stops none none .none
    have ha {i i' : Input} (hi : Inputs i i') :
        Follows (link x) (argument i) (argument i') (Leaves (Token.AllLike False)) :=
      argument_relined hregistry hi
    rw [ht.symbol, hi.name]
    refine .bind (.lift (Tracking.get_like t.symbol.value t.line t'.line _)) fun d _ hd => ?_
    subst hd
    cases d with
    | includeFile optional =>
      have hlocate : Follows (link x) (expanding setup fun c => locate c optional t i)
          (expanding setup fun c => locate c optional t' i') (Leaves Eq) :=
        expanding_relined fun fs fs' h => (Tracking.locate_like (fun _ _ _ _ => trivial)
          (surrounded h _) Input.tracks_like optional t t' hi).mono fun p q hpq =>
            ⟨hpq.result, hpq.rest⟩
      refine .bind hlocate ?_
      rintro ⟨found, rest⟩ ⟨_, rest'⟩ ⟨rfl, hrest⟩
      dsimp only
      split
      · exact .pure ⟨rfl, hrest⟩
      · next p =>
        have hopen : Follows (link x) (expanding setup fun c => openFile c p)
            (expanding setup fun c => openFile c p) (Same fun _ => True) :=
          expanding_relined fun fs fs' _ =>
            .openFile (.refl (fun _ _ => ⟨rfl, trivial⟩) fun _ _ => trivial)
        refine .bind_same hopen fun file _ => ?_
        refine .bind (inBlock_relined (he _ [] file file (.refl file))) ?_
        rintro ⟨_, es⟩ ⟨_, es'⟩ ⟨-, hes⟩
        exact .pure ⟨hes, hrest⟩
    | ifEqual =>
      refine .bind (ha hi) ?_
      rintro ⟨left, first⟩ ⟨left', first'⟩ ⟨hleft, hfirst⟩
      refine .bind (ha hfirst) ?_
      rintro ⟨right, second⟩ ⟨right', second'⟩ ⟨hright, hsecond⟩
      have htext {ts ts' : List Token} (h : Token.AllLike False ts ts') :
          ts'.map Token.text = ts.map Token.text := by
        have htexts := h.congr (List.map Symbol.text)
        rwa [List.map_map, List.map_map] at htexts
      dsimp only
      rw [htext hleft, htext hright]
      refine .bind (conditional_relined he .ifEqual t t' _ hsecond) ?_
      rintro ⟨es, more⟩ ⟨es', more'⟩ ⟨hes, hmore⟩
      exact .pure ⟨hes, hmore⟩
    | ifTrue =>
      refine .bind (ha hi) ?_
      rintro ⟨condition, rest⟩ ⟨condition', rest'⟩ ⟨hcondition, hrest⟩
      have hswitch : Switch.ofTokens condition' = Switch.ofTokens condition :=
        switch_relined hcondition
      dsimp only
      rw [hswitch]
      split
      · exact (Stuck.throw _).follows
      · refine .bind (conditional_relined he .ifTrue t t' _ hrest) ?_
        rintro ⟨es, more⟩ ⟨es', more'⟩ ⟨hes, hmore⟩
        exact .pure ⟨hes, hmore⟩
    | remove =>
      refine .bind (ha hi) ?_
      rintro ⟨names, rest⟩ ⟨names', rest'⟩ ⟨hnames, hrest⟩
      exact .bind (remove_relined t t' hnames) fun _ _ _ => .pure ⟨rfl, hrest⟩
    | inputMode => exact changeMode_relined t t' hi
    | otherwise | endIf | calculate | negate | blank => exact (Stuck.throw _).follows

end Relined

end CaseDict
