import CaseDict.Proofs.Sequels
import CaseDict.Proofs.Literal
import CaseDict.Statement.Directive
/-! # Inputs that track each other

Two inputs track each other if their tokens have the same symbols, maybe on other lines, up to where
an `#if`, `#ifeq`, `#else` or `#endif` comes next in the first one. No value and no argument goes on
over such a directive. So what is read of a value or an argument in the first input is read in the
second one as well, and holds none of these directives (`Onward`). -/

namespace CaseDict

open Expansion

variable {σ α β γ δ : Type}

/-! ### Lines, tokens and inputs -/

/-- The directives that begin, divide and end conditionals. -/
def Token.isBranching (t : Token) : Bool :=
  t.symbol.isDirectiveIn (Statement.conditionals ++ Statement.branchEnds)

/-- The lines are the same if the comparison is exact. -/
def Loose (exact : Prop) (line line' : Int) : Prop := exact → line = line'

/-- The symbols are the same, and the lines are if the comparison is exact. -/
structure Token.Like (exact : Prop) (t t' : Token) : Prop where
  symbol : t'.symbol = t.symbol
  line : Loose exact t.line t'.line

abbrev Token.AllLike (exact : Prop) : List Token → List Token → Prop := List.Forall₂ (Like exact)

variable {exact : Prop}

theorem Token.Like.refl (t : Token) : t.Like exact t := ⟨rfl, fun _ => rfl⟩

theorem Token.AllLike.refl (ts : List Token) : AllLike exact ts ts :=
  List.forall₂_same.mpr fun t _ => .refl t

theorem Token.Like.renew {t t' : Token} (h : t.Like exact t') (y : Symbol) :
    Like exact ⟨y, t.line⟩ ⟨y, t'.line⟩ := ⟨rfl, h.line⟩

theorem Token.AllLike.single {t t' : Token} (h : t.Like exact t') (y : Symbol) :
    AllLike exact [⟨y, t.line⟩] [⟨y, t'.line⟩] := .cons (h.renew y) .nil

theorem Token.AllLike.map_symbol {ts ts' : List Token} (h : AllLike exact ts ts') :
    ts'.map symbol = ts.map symbol := by
  induction h with
  | nil => rfl
  | cons ht _ ih => rw [List.map_cons, List.map_cons, ht.symbol, ih]

/-- What depends on the symbols only is the same. -/
theorem Token.AllLike.congr {ts ts' : List Token} (h : AllLike exact ts ts')
    (f : List Symbol → α) : f (ts'.map symbol) = f (ts.map symbol) := by rw [h.map_symbol]

namespace Input

variable {i i' : Input}

/-- The two inputs have the same tokens and end in the same way. -/
structure Like (exact : Prop) (i i' : Input) : Prop where
  name : i'.name = i.name
  tokens : Token.AllLike exact i.tokens i'.tokens
  fault : i'.fault.isSome = i.fault.isSome
  line : Loose exact i.line i'.line

theorem Like.refl (i : Input) : i.Like exact i := ⟨rfl, .refl _, rfl, fun _ => rfl⟩

theorem Like.of_tokens (name : String) {ts ts' : List Token} (h : Token.AllLike exact ts ts') :
    (ofTokens name ts).Like exact (ofTokens name ts') := ⟨rfl, h, rfl, fun _ => rfl⟩

theorem Like.after (h : i.Like exact i') {t t' : Token} {ts ts' : List Token}
    (ht : t.Like exact t') (hts : Token.AllLike exact ts ts') :
    (i.after t ts).Like exact (i'.after t' ts') where
  name := h.name
  tokens := hts
  fault := h.fault
  line he := by
    dsimp only [Input.after]
    rw [h.line he, ht.line he]

/-- The next tokens are alike, and the inputs after them are related by `ρ`; or both inputs end. -/
inductive NextLike (exact : Prop) (ρ : Input → Input → Prop) :
    Option (Token × i.Less) → Option (Token × i'.Less) → Prop
  | none (h : Loose exact i.line i'.line) : NextLike exact ρ none none
  | some {t t' : Token} {rest : i.Less} {rest' : i'.Less} (ht : t.Like exact t')
      (htokens : i.tokens = t :: rest.input.tokens) (h : ρ rest.input rest'.input) :
      NextLike exact ρ (some (t, rest)) (some (t', rest'))

/-- Inputs related by `ρ` track each other. -/
structure Tracks (exact : Prop) (ρ : Input → Input → Prop) : Prop where
  name {i i' : Input} (h : ρ i i') : i'.name = i.name
  next {i i' : Input} (h : ρ i i') :
    (∃ t rest, i.next = .ok (some (t, rest)) ∧ t.isBranching = true) ∨
      (∃ f, i.next = .error f) ∨
      ∃ found found', i.next = .ok found ∧ i'.next = .ok found' ∧ NextLike exact ρ found found'

theorem Like.next (h : i.Like exact i') : (∃ f, i.next = .error f) ∨ ∃ found found',
    i.next = .ok found ∧ i'.next = .ok found' ∧ NextLike exact (Like exact) found found' := by
  obtain ⟨name, ts, fault, line⟩ := i
  obtain ⟨_, ts', fault', line'⟩ := i'
  have hafter := fun {t t' ts ts'} => @Like.after exact _ _ h t t' ts ts'
  obtain ⟨rfl, htokens, hfault, hline⟩ := h
  cases htokens with
  | nil =>
    cases fault with
    | some f => exact .inl ⟨f, rfl⟩
    | none =>
      cases fault' with
      | some => contradiction
      | none => exact .inr ⟨_, _, rfl, rfl, .none hline⟩
  | cons ht hts => exact .inr ⟨_, _, rfl, rfl, .some ht rfl (hafter ht hts)⟩

/-- Inputs with the same tokens track each other. -/
theorem tracks_like : Tracks exact (Like exact) := ⟨Like.name, fun h => .inr h.next⟩

/-- Reading on from `i` to `j` passes over no directive of a conditional. -/
def Passed (i j : Input) : Prop :=
  ∃ ts, i.tokens = ts ++ j.tokens ∧ ∀ t ∈ ts, t.isBranching = false

theorem Passed.refl (i : Input) : i.Passed i := ⟨[], rfl, List.forall_mem_nil _⟩

theorem Passed.trans {i j k : Input} (h : i.Passed j) (h' : j.Passed k) : i.Passed k := by
  obtain ⟨ts, hts, hb⟩ := h
  obtain ⟨us, hus, hb'⟩ := h'
  exact ⟨ts ++ us, by rw [hts, hus, List.append_assoc], List.forall_mem_append.mpr ⟨hb, hb'⟩⟩

theorem Passed.token {j : Input} {t : Token} (h : i.tokens = t :: j.tokens)
    (ht : t.isBranching = false) : i.Passed j := ⟨[t], h, List.forall_mem_singleton.mpr ht⟩

end Input

open Input

/-- Both computations have read on in inputs that are related by `ρ`, the first one over no
directive of a conditional. -/
structure Onward {i i' : Input} (ρ : Input → Input → Prop) (post : α → β → Prop) (p : Taken α i)
    (q : Taken β i') : Prop where
  result : post p.1 q.1
  rest : ρ p.2.input q.2.input
  passed : i.Passed p.2.input

theorem Onward.mono {i i' : Input} {ρ : Input → Input → Prop} {post post' : α → β → Prop}
    {p : Taken α i} {q : Taken β i'} (h : Onward ρ post p q) (hp : ∀ a b, post a b → post' a b) :
    Onward ρ post' p q := ⟨hp _ _ h.result, h.rest, h.passed⟩

namespace Follows

variable {rel : σ → σ → Prop} {ρ : Input → Input → Prop} {i i' : Input}

/-- A computation that takes the next token of the input, if there is one. -/
theorem taking (hρ : Tracks exact ρ) (hi : ρ i i')
    {k : Option (Token × i.Less) → ExceptT Failure (StateM σ) α}
    {k' : Option (Token × i'.Less) → ExceptT Failure (StateM σ) β} {post : α → β → Prop}
    (hbranching : ∀ t rest, t.isBranching = true → Stuck (k (some (t, rest))))
    (hnone : Loose exact i.line i'.line → Follows (.loosely rel) (k none) (k' none) post)
    (hsome : ∀ t t' rest rest', t.Like exact t' → i.Passed rest.input →
      ρ rest.input rest'.input →
        Follows (.loosely rel) (k (some (t, rest))) (k' (some (t', rest'))) post) :
    Follows (.loosely rel) (liftM i.next >>= k) (liftM i'.next >>= k') post := by
  obtain ⟨t, rest, hnext, ht⟩ | ⟨f, hnext⟩ | ⟨found, found', hnext, hnext', hfound⟩ := hρ.next hi
  · rw [hnext]
    exact (hbranching t rest ht).follows
  · rw [hnext]
    exact (Stuck.throw f).bind.follows
  · rw [hnext, hnext']
    cases hfound with
    | none hline => exact hnone hline
    | @some t t' rest rest' ht htokens hrest =>
      cases hb : t.isBranching with
      | true => exact (hbranching t rest hb).follows
      | false => exact hsome t t' rest rest' ht (.token htokens hb) hrest

/-- The next tokens of inputs with the same tokens. -/
theorem taking_like (hi : i.Like exact i')
    {k : Option (Token × i.Less) → ExceptT Failure (StateM σ) α}
    {k' : Option (Token × i'.Less) → ExceptT Failure (StateM σ) β} {post : α → β → Prop}
    (hnone : Follows (.loosely rel) (k none) (k' none) post)
    (hsome : ∀ t t' rest rest', t.Like exact t' → rest.input.Like exact rest'.input →
      Follows (.loosely rel) (k (some (t, rest))) (k' (some (t', rest'))) post) :
    Follows (.loosely rel) (liftM i.next >>= k) (liftM i'.next >>= k') post := by
  obtain ⟨f, hnext⟩ | ⟨found, found', hnext, hnext', hfound⟩ := hi.next
  · rw [hnext]
    exact (Stuck.throw f).bind.follows
  · rw [hnext, hnext']
    cases hfound with
    | none => exact hnone
    | some ht _ hrest => exact hsome _ _ _ _ ht hrest

/-- A computation that takes the next token of the input, which must exist. -/
theorem expecting (hρ : Tracks exact ρ) (hi : ρ i i') {what what' : String}
    {k : Token × i.Less → ExceptT Failure (StateM σ) α}
    {k' : Token × i'.Less → ExceptT Failure (StateM σ) β} {post : α → β → Prop}
    (hbranching : ∀ t rest, t.isBranching = true → Stuck (k (t, rest)))
    (hsome : ∀ t t' rest rest', t.Like exact t' → i.Passed rest.input →
      ρ rest.input rest'.input →
        Follows (.loosely rel) (k (t, rest)) (k' (t', rest')) post) :
    Follows (.loosely rel) (liftM (i.expect what) >>= k) (liftM (i'.expect what') >>= k') post := by
  have hexpect (i : Input) (what : String) {γ : Type}
      (k : Token × i.Less → ExceptT Failure (StateM σ) γ) : liftM (i.expect what) >>= k =
        liftM i.next >>= fun found =>
          found.elim (MonadExcept.throw (.inText (.endOfInput what) i.line i.name)) k := by
    unfold Input.expect
    rcases i.next with f | _ | p <;> rfl
  rw [hexpect, hexpect]
  exact taking hρ hi hbranching (fun _ => (Stuck.throw _).follows) hsome

end Follows

/-! ### Sequences of tokens -/

namespace Tracking

variable {ρ : Input → Input → Prop} {i i' : Input}

section Sequences

variable {rel : List Event → List Event → Prop}
  {reference reference' : Token → String → ExpandM (List Token)}
  {inline inline' : Token → (i : Input) → ExpandM (Taken (List Token) i)}

/-- Directives in values are expanded alike before inputs that track each other, and those of
conditionals fail there. -/
structure Inlines (exact : Prop) (rel : List Event → List Event → Prop)
    (ρ : Input → Input → Prop)
    (inline inline' : Token → (i : Input) → ExpandM (Taken (List Token) i)) : Prop where
  follows {t t' : Token} {i i' : Input} (ht : t.Like exact t') (hi : ρ i i') :
    Follows (.loosely rel) (inline t i) (inline' t' i') (Onward ρ (Token.AllLike exact))
  stuck {t : Token} (ht : t.isBranching = true) (i : Input) : Stuck (inline t i)

/-- References are expanded alike. -/
def References (exact : Prop) (rel : List Event → List Event → Prop)
    (reference reference' : Token → String → ExpandM (List Token)) : Prop :=
  ∀ t t' source, t.Like exact t' →
    Follows (.loosely rel) (reference t source) (reference' t' source) (Token.AllLike exact)

theorem stuck_expandToken (hin : Inlines exact rel ρ inline inline') {t : Token}
    (ht : t.isBranching = true) (i : Input) : Stuck (expandToken reference inline t i) := by
  obtain ⟨y, line⟩ := t
  cases y with
  | directive => exact hin.stuck ht i
  | _ => contradiction

theorem track_like {t t' : Token} (ht : t.Like exact t') {opened opened' : List Opening}
    (ho : opened'.map Opening.bracket = opened.map Opening.bracket) (name : String) :
    (Link.loosely rel).Meets (fun o o' => o'.map Opening.bracket = o.map Opening.bracket)
      (track opened t name) (track opened' t' name) := by
  unfold track
  rw [ht.symbol]
  split
  · exact .ok (by rw [List.map_cons, List.map_cons, ho])
  · unfold close
    rcases opened with _ | ⟨o, outer⟩ <;> rcases opened' with _ | ⟨o', outer'⟩
    · exact .parted trivial rfl
    · contradiction
    · contradiction
    · obtain ⟨hb, houter⟩ := List.cons.inj ho
      dsimp only
      rw [hb]
      split
      · exact .ok houter
      · exact .parted trivial rfl
  · exact .ok ho

variable (hρ : Tracks exact ρ) (href : References exact rel reference reference')
  (hin : Inlines exact rel ρ inline inline')

include hρ href hin

theorem expandToken_like {t t' : Token} (ht : t.Like exact t') (hi : ρ i i') :
    Follows (.loosely rel) (expandToken reference inline t i) (expandToken reference' inline' t' i')
      (Onward ρ (Token.AllLike exact)) := by
  unfold Expansion.expandToken
  rw [ht.symbol, hρ.name hi]
  split
  · exact .bind (href _ _ _ ht) fun _ _ hts => .pure ⟨hts, hi, .refl i⟩
  · exact hin.follows ht hi
  · exact .pure ⟨.cons ht .nil, hi, .refl i⟩

theorem readGroup_like (o o' : Opening) (hb : o'.bracket = o.bracket)
    (outer outer' : List Opening)
    (ho : outer'.map Opening.bracket = outer.map Opening.bracket) (hi : ρ i i') :
    Follows (.loosely rel) (readGroup reference inline o outer i)
      (readGroup reference' inline' o' outer' i') (Onward ρ (Token.AllLike exact)) := by
  induction hn : i.size using Nat.strongRecOn generalizing i i' o o' outer outer' with
  | ind n ih =>
    rw [readGroup.eq_def, readGroup.eq_def reference', hρ.name hi]
    refine .expecting hρ hi (fun t rest ht => ?_) fun t t' rest rest' ht hpassed hrest => ?_
    · exact .of_bind fun _ => (stuck_expandToken hin ht _).bind
    refine .bind (.lift (track_like ht ?_ _)) fun opened opened' hopened => ?_
    · rw [List.map_cons, List.map_cons, hb, ho]
    refine .bind (expandToken_like hρ href hin ht hrest) ?_
    rintro ⟨ts, more⟩ ⟨ts', more'⟩ ⟨hts, hmore, hpassed'⟩
    have hlt : more.input.size < n := hn ▸ Nat.lt_of_le_of_lt more.le rest.lt
    rcases opened with _ | ⟨o, outer⟩ <;> rcases opened' with _ | ⟨o', outer'⟩
    · exact .pure ⟨hts, hmore, hpassed.trans hpassed'⟩
    · contradiction
    · contradiction
    · obtain ⟨hb, ho⟩ := List.cons.inj hopened
      refine .bind (ih _ hlt o o' hb outer outer' ho hmore rfl) ?_
      rintro ⟨us, last⟩ ⟨us', last'⟩ ⟨hus, hlast, hpassed''⟩
      exact .pure ⟨List.rel_append hts hus, hlast, (hpassed.trans hpassed').trans hpassed''⟩

theorem readArgument_like (hi : ρ i i') :
    Follows (.loosely rel) (readArgument reference inline i) (readArgument reference' inline' i')
      (Onward ρ (Token.AllLike exact)) := by
  unfold Expansion.readArgument
  refine .expecting hρ hi (fun t rest ht => ?_) fun t t' rest rest' ht hpassed hrest => ?_
  · obtain ⟨y, line⟩ := t
    cases y with
    | directive => exact (stuck_expandToken hin ht _).bind
    | _ => contradiction
  dsimp only
  rw [ht.symbol]
  split
  · exact (Stuck.throw _).follows
  · exact (Stuck.throw _).follows
  · refine .bind (readGroup_like hρ href hin ⟨_, t.line⟩ ⟨_, t'.line⟩ rfl [] [] rfl hrest) ?_
    rintro ⟨ts, more⟩ ⟨ts', more'⟩ ⟨hts, hmore, hpassed'⟩
    exact .pure ⟨.cons ht hts, hmore, hpassed.trans hpassed'⟩
  · refine .bind (expandToken_like hρ href hin ht hrest) ?_
    rintro ⟨ts, more⟩ ⟨ts', more'⟩ ⟨hts, hmore, hpassed'⟩
    exact .pure ⟨hts, hmore, hpassed.trans hpassed'⟩

theorem readValue_like {opened opened' : List Opening}
    (ho : opened'.map Opening.bracket = opened.map Opening.bracket) (hi : ρ i i') :
    Follows (.loosely rel) (readValue reference inline opened i)
      (readValue reference' inline' opened' i')
      (Onward ρ fun p q => Token.AllLike exact p.1 q.1 ∧ Loose exact p.2 q.2) := by
  induction hn : i.size using Nat.strongRecOn generalizing i i' opened opened' with
  | ind n ih =>
    rw [readValue.eq_def, readValue.eq_def reference', hρ.name hi]
    refine .taking hρ hi (fun t rest ht => ?_) (fun hline => ?_)
      fun t t' rest rest' ht hpassed hrest => ?_
    · dsimp only
      rw [if_neg]
      · exact .of_bind fun _ => (stuck_expandToken hin ht _).bind
      · rintro ⟨hs, -⟩
        unfold Token.isBranching at ht
        rw [hs] at ht
        contradiction
    · rcases opened with _ | ⟨o, outer⟩ <;> rcases opened' with _ | ⟨o', outer'⟩
      · exact .pure ⟨⟨.nil, hline⟩, hi, .refl i⟩
      · contradiction
      · contradiction
      · exact (Stuck.throw _).follows
    · have hempty : opened'.isEmpty = opened.isEmpty := by
        rw [← List.isEmpty_map (f := Opening.bracket), ho, List.isEmpty_map]
      dsimp only
      rw [ht.symbol, hempty]
      split
      · exact .pure ⟨⟨.nil, ht.line⟩, hrest, hpassed⟩
      · refine .bind (.lift (track_like ht ho _)) fun opened opened' hopened => ?_
        refine .bind (expandToken_like hρ href hin ht hrest) ?_
        rintro ⟨ts, more⟩ ⟨ts', more'⟩ ⟨hts, hmore, hpassed'⟩
        have hlt : more.input.size < n := hn ▸ Nat.lt_of_le_of_lt more.le rest.lt
        refine .bind (ih _ hlt hopened hmore rfl) ?_
        rintro ⟨⟨us, endLine⟩, last⟩ ⟨⟨us', endLine'⟩, last'⟩ ⟨⟨hus, hline⟩, hlast, hpassed''⟩
        exact .pure ⟨⟨List.rel_append hts hus, hline⟩, hlast,
          (hpassed.trans hpassed').trans hpassed''⟩

theorem expandAll_like (hi : ρ i i') :
    Follows (.loosely rel) (expandAll reference inline i) (expandAll reference' inline' i')
      (Token.AllLike exact) := by
  induction hn : i.size using Nat.strongRecOn generalizing i i' with
  | ind n ih =>
    rw [expandAll.eq_def, expandAll.eq_def reference']
    refine .taking hρ hi (fun t rest ht => ?_) (fun hline => .pure .nil)
      fun t t' rest rest' ht hpassed hrest => ?_
    · exact (stuck_expandToken hin ht _).bind
    · refine .bind (expandToken_like hρ href hin ht hrest) ?_
      rintro ⟨ts, more⟩ ⟨ts', more'⟩ ⟨hts, hmore, -⟩
      have hlt : more.input.size < n := hn ▸ Nat.lt_of_le_of_lt more.le rest.lt
      exact .bind (ih _ hlt hmore rfl) fun us us' hus => .pure (List.rel_append hts hus)

end Sequences

/-! ### References and directives -/

/-- The same names stand for the same texts, and for tokens that are alike. -/
structure SurroundedAlike (exact : Prop) (rel : List Event → List Event → Prop)
    (s s' : Surroundings) : Prop where
  tokens (name : String) {line line' : Int} (h : Loose exact line line') :
    (Link.loosely rel).Meets (Token.AllLike exact) (s.tokens name line) (s'.tokens name line')
  text (name : String) (line line' : Int) :
    (Link.loosely rel).Meets Eq (s.text line name) (s'.text line' name)

theorem SurroundedAlike.refl {rel : List Event → List Event → Prop} (s : Surroundings) :
    SurroundedAlike True rel s s where
  tokens name line line' hline := by
    obtain rfl := hline trivial
    exact .refl (fun ts _ => .refl ts) fun _ _ => trivial
  text name line line' := by
    unfold Surroundings.text
    split
    · exact .ok rfl
    · exact .parted trivial rfl
    · split
      · exact .ok rfl
      · exact .parted trivial rfl

/-- The directive of a name does not depend on the line. -/
theorem get_like {rel : σ → σ → Prop} {r : Registry} (name : String)
    (line line' : Int) (source : Option String) : (Link.loosely rel).Meets Eq
      (r.get name line source) (r.get name line' source) := by
  unfold Registry.get
  split
  · exact .ok rfl
  · exact .parted trivial rfl

section Contexts

variable {rel : List Event → List Event → Prop} {setup : Setup}
  {frames frames' : List (Frame Entry)}

theorem expandText_like {s s' : Surroundings} (hs : SurroundedAlike exact rel s s')
    (template : String) (line line' : Int) : (Link.loosely rel).Meets Eq
      (s.expandText template line) (s'.expandText template line') := by
  unfold Surroundings.expandText
  induction Template.pieces template.toList with
  | nil => exact .ok rfl
  | cons p ps ih =>
    cases p with
    | literal c => exact .bind ih fun _ _ h => .ok (h ▸ rfl)
    | reference name =>
      refine .bind (hs.text name line line') fun _ _ h => ?_
      exact .bind ih fun _ _ h' => .ok (h ▸ h' ▸ rfl)

/-- Reporting keeps states related. -/
def Reports (rel : List Event → List Event → Prop) : Prop :=
  ∀ log log' event, rel log log' → rel (log ++ [event]) (log' ++ [event])

variable (hreport : Reports rel)
  (hs : SurroundedAlike exact rel ⟨frames, setup.settings.environment⟩
    ⟨frames', setup.settings.environment⟩)

include hreport

omit hreport in
/-- The setup beside itself. -/
theorem setup_alike (hreport : Reports rel) (setup : Setup) :
    setup.Alike (.loosely rel) .free setup :=
  .of_settings rfl (.inl rfl)
    (fun _ _ _ _ _ _ => ⟨Vocabulary.whole_literal, fun _ _ _ => Vocabulary.knows_free _⟩)
    (fun event _ => .changing (fun log log' => hreport log log' event) fun _ ha => by contradiction)
    fun _ _ => trivial

include hs

variable (hρ : Tracks exact ρ)

include hρ

theorem locate_like (optional : Bool) (t t' : Token) (hi : ρ i i') :
    Follows (.loosely rel) (locate ⟨setup, frames⟩ optional t i)
      (locate ⟨setup, frames'⟩ optional t' i') (Onward ρ Eq) := by
  have hsetup : (Context.setup ⟨setup, frames⟩).Alike (.loosely rel) .free
      (Context.setup ⟨setup, frames'⟩) := setup_alike hreport setup
  unfold Expansion.locate
  refine .expecting hρ hi (fun a rest ha => ?_) fun a a' rest rest' ha hpassed hrest => ?_
  · obtain ⟨y, line⟩ := a
    cases y with
    | directive => exact (Stuck.throw _).bind
    | _ => contradiction
  dsimp -zeta only
  extract_lets find find'
  have hfind (raw : String) : Follows (.loosely rel) (find raw) (find' raw) (Onward ρ Eq) := by
    refine .bind (.lift (expandText_like hs raw t.line t'.line)) fun name _ hname => ?_
    subst hname
    dsimp only
    rw [hρ.name hi]
    refine .bind_same (Follows.candidates hsetup _ _) fun places _ => ?_
    refine .bind_same (Follows.firstFile hsetup places) fun found _ => ?_
    split
    · exact .pure ⟨rfl, hrest, hpassed⟩
    · split
      · exact .pure ⟨rfl, hrest, hpassed⟩
      · exact (Stuck.of_bind fun _ => .throw _).follows
  rw [ha.symbol]
  split
  all_goals first
    | rw [pure_bind, pure_bind]; exact hfind _
    | exact (Stuck.throw _).bind.follows

omit hreport in
theorem calculate_like {t t' : Token} (ht : t.Like exact t') (hi : ρ i i') :
    Follows (.loosely rel) (calculate ⟨setup, frames⟩ t i) (calculate ⟨setup, frames'⟩ t' i')
      (Onward ρ (Token.AllLike exact)) := by
  unfold Expansion.calculate
  refine .expecting hρ hi (fun a rest ha => ?_) fun a a' rest rest' ha hpassed hrest => ?_
  · obtain ⟨y, line⟩ := a
    cases y with
    | directive => exact (Stuck.throw _).bind
    | _ => contradiction
  dsimp -zeta only
  extract_lets evaluate evaluate'
  have hevaluate (source : String) : Follows (.loosely rel) (evaluate source) (evaluate' source)
      (Onward ρ (Token.AllLike exact)) := by
    refine .bind (.lift (expandText_like hs source t.line t'.line)) fun expression _ he => ?_
    subst he
    split
    · exact (Stuck.throw _).follows
    · split
      · exact .pure ⟨.single ht _, hrest, hpassed⟩
      · exact (Stuck.throw _).follows
    · exact .pure ⟨.single ht _, hrest, hpassed⟩
  rw [ha.symbol]
  split
  all_goals first
    | rw [pure_bind, pure_bind]; exact hevaluate _
    | exact (Stuck.throw _).bind.follows

omit hreport hs hρ in
/-- A directive of a conditional has no meaning in a value. -/
theorem stuck_inline (hregistry : setup.registry = .standard) {t : Token}
    (ht : t.isBranching = true) (n : Nat) (i : Input) : Stuck (inline ⟨setup, frames⟩ n t i) := by
  obtain ⟨y, line⟩ := t
  cases n with
  | zero => exact .throw _
  | succ n =>
    cases y with
    | directive name =>
      have hname : name = "if" ∨ name = "ifeq" ∨ name = "else" ∨ name = "endif" := by
        simpa [Token.isBranching, Symbol.isDirectiveIn, Statement.conditionals,
          Statement.branchEnds, Directive.name] using ht
      unfold Expansion.inline
      rw [show (Context.setup ⟨setup, frames⟩).registry = .standard from hregistry]
      obtain rfl | rfl | rfl | rfl := hname <;> exact .throw _
    | _ => contradiction

variable (hregistry : setup.registry = .standard)

include hregistry

omit hρ in
/-- What references and directives stand for is alike in surroundings that are alike. -/
theorem expansion_like (n : Nat) :
    References exact rel (reference ⟨setup, frames⟩ n) (reference ⟨setup, frames'⟩ n) ∧
      ∀ ρ, Tracks exact ρ →
        Inlines exact rel ρ (inline ⟨setup, frames⟩ n) (inline ⟨setup, frames'⟩ n) := by
  have hstuck (n : Nat) {t : Token} (ht : t.isBranching = true) (i : Input) :
      Stuck (inline ⟨setup, frames⟩ n t i) := stuck_inline hregistry ht n i
  induction n with
  | zero => exact ⟨fun _ _ _ _ => (Stuck.throw _).follows,
      fun ρ _ => ⟨fun _ _ => (Stuck.throw _).follows, hstuck 0⟩⟩
  | succ n ih =>
    obtain ⟨href, hin⟩ := ih
    refine ⟨fun t t' source ht => ?_, fun ρ hρ => ⟨fun {t t' i i'} ht hi => ?_, hstuck (n + 1)⟩⟩
    · unfold Expansion.reference
      rw [ht.symbol]
      refine .bind (.lift (hs.tokens _ ht.line)) fun ts ts' hts => ?_
      have hany : ts'.any (·.symbol.isMacro) = ts.any (·.symbol.isMacro) := by
        have h := hts.congr (List.any · Symbol.isMacro)
        rwa [List.any_map, List.any_map] at h
      rw [hany]
      split
      · exact expandAll_like tracks_like href (hin _ tracks_like) (.of_tokens _ hts)
      · exact .pure hts
    · unfold Expansion.inline
      rw [ht.symbol, hρ.name hi]
      refine .bind (.lift (get_like t.symbol.value t.line t'.line _)) fun d _ hd => ?_
      subst hd
      cases d with
      | calculate => exact calculate_like hs hρ ht hi
      | negate =>
        refine .bind (readArgument_like hρ href (hin _ hρ) hi) ?_
        rintro ⟨ts, rest⟩ ⟨ts', rest'⟩ ⟨hts, hrest, hpassed⟩
        dsimp only
        split
        · obtain _ | ⟨ha, _ | _⟩ := hts
          next a =>
          obtain ⟨y, line⟩ := a
          obtain rfl : y = _ := ha.symbol
          exact .pure ⟨.single ht _, hrest, hpassed⟩
        · exact (Stuck.throw _).follows
      | includeFile optional =>
        refine .bind (locate_like hreport hs hρ optional t t' hi) ?_
        rintro ⟨found, rest⟩ ⟨_, rest'⟩ ⟨rfl, hrest, hpassed⟩
        dsimp only
        split
        · exact .pure ⟨.nil, hrest, hpassed⟩
        · next p =>
          refine .bind (.openFile (.refl (fun _ _ => rfl) fun _ _ => trivial)) ?_
          rintro file _ rfl
          refine .bind (expandAll_like tracks_like href (hin _ tracks_like) (.refl file)) ?_
          exact fun ts ts' hts => .pure ⟨hts, hrest, hpassed⟩
      | ifEqual | ifTrue | otherwise | endIf | remove | inputMode | blank =>
        exact (Stuck.throw _).follows

end Contexts

end Tracking

end CaseDict
