import CaseDict.Proofs.Endings
import CaseDict.Proofs.Sequels
/-! # Statements that are followed by more

A dictionary, a block or a statement that is complete is read in the same way if more follows it.
The last statement of an input may be incomplete; then it takes the terminator behind the input, and
the entry that it brings ends on the line of that terminator (`StatementGoesOn`). -/

namespace CaseDict

open Expansion Statement

variable {x : Sequel} {i i' : Input} {α : Type}

namespace Sequel

/-! ### Tokens and branches -/

theorem expanding_leading {setup : Setup} {β : Type} {act : Context → ExpandM α}
    {act' : Context → ExpandM β} {post : α → β → Prop}
    (h : ∀ c, Follows .leading (act c) (act' c) post) :
    Follows .leading (expanding setup act) (expanding setup act') post where
  ends s s' hs := by
    obtain rfl := hs
    have h := (h ⟨setup, s.scope.frames⟩).ends s.log s.log rfl
    rw [exec_expanding, exec_expanding]
    generalize exec (act _) s.log = p, exec (act' _) s.log = p' at h ⊢
    cases h with
    | ok hab hl => exact .ok hab (hl ▸ rfl)
    | error => exact .error trivial
    | parted => exact .parted trivial (.of_none rfl)
  stays _ ha := by contradiction

section Statements

variable {setup : Setup} {budget : Nat}

theorem argument_followed (hi : i' = i.followedBy x) : Follows .leading
    (expanding setup fun c => readArgument (reference c budget) (inline c budget) i)
    (expanding setup fun c => readArgument (reference c budget) (inline c budget) i')
    (Within x) :=
  expanding_leading fun c => Follows.readArgument_followed (Follows.inline_followed c budget) hi

theorem readTokens_followed (hi : i' = i.followedBy x) :
    Follows .leading (readTokens setup budget i) (readTokens setup budget i')
      (Beyond x fun p q => p.1 = q.1) :=
  expanding_leading fun c => Follows.readValue_followed (Follows.inline_followed c budget) [] hi

theorem changeMode_followed (t : Token) (hi : i' = i.followedBy x) :
    Follows .leading (changeMode setup t i) (changeMode setup t i') (Within x) := by
  unfold Statement.changeMode
  refine .bind (Follows.expect_followed hi _) ?_
  rintro ⟨argument, rest⟩ ⟨_, rest'⟩ ⟨rfl, htext, hrest⟩
  dsimp only
  split
  · have hset (mode : InputMode) : Follows .leading
        (do modify fun s => { s with mode }; return (([] : List Entry), rest.toRest) : ReadM _)
        (do modify fun s => { s with mode }; return ([], rest'.toRest) : ReadM _) (Within x) :=
      .bind_again fun _ => .pure ⟨rfl, htext, hrest⟩
    split
    · exact .bind_again hset
    · split
      · exact .bind_again hset
      · exact .fails_bind
  · exact .fails

/-- A branch that is passed over ends before what follows the input. -/
theorem skipBranch_followed {own : Directive} {t : Token} {allow : Bool} {inner : Nat}
    (hi : i' = i.followedBy x) :
    (Link.leading : Link ReadState).Meets (Within x) (skipBranch own t allow inner i)
      (skipBranch own t allow inner i') := by
  induction hn : i.size using Nat.strongRecOn generalizing i i' inner with
  | ind n ih =>
    have hname : i'.name = i.name := hi ▸ rfl
    rw [skipBranch.eq_def own t allow inner i, skipBranch.eq_def own t allow inner i']
    refine .bind (Input.next_meets hi) ?_
    rintro _ _ (@⟨found, rest, rest', htext, hrest⟩ | -)
    · dsimp -zeta only
      extract_lets skip skip'
      have hskip (inner : Nat) : (Link.leading : Link ReadState).Meets (Within x) (skip inner)
          (skip' inner) := by
        refine .bind (ih _ (hn ▸ rest.lt) hrest rfl) ?_
        rintro ⟨ending, more⟩ ⟨_, more'⟩ ⟨rfl, hmore, hmore'⟩
        exact .ok ⟨rfl, htext.trans hmore, hmore'⟩
      split
      · exact hskip _
      split
      · cases inner with
        | zero => exact .ok ⟨rfl, htext, hrest⟩
        | succ inner => exact hskip _
      split
      · split
        · exact .ok ⟨rfl, htext, hrest⟩
        · exact .parted trivial rfl
      · exact hskip _
    · exact .parted trivial rfl

end Statements

/-! ### Entries -/

/-- Whether a heading can stand over an entry does not depend on the line where the entry ends. -/
theorem checked_elsewhere {σ : Type} (h : Heading) (endLine endLine' : Int) :
    Follows (.leading : Link σ) (liftM (Heading.checked { h with endLine }))
      (liftM (Heading.checked { h with endLine := endLine' }))
      fun a b => a = { h with endLine } ∧ b = { h with endLine := endLine' } := by
  have hfailure : Heading.failure? { h with endLine := endLine' } =
      Heading.failure? { h with endLine } := rfl
  refine .lift ?_
  rw [Heading.checked, Heading.checked, hfailure]
  cases Heading.failure? { h with endLine } with
  | none => exact .ok ⟨rfl, rfl⟩
  | some f => exact .error trivial

section Entries

variable {setup : Setup} {budget : Nat}

/-- A primitive entry ends where its value does. -/
theorem primitive_followed {m : ReadM (Taken (List Token × Int) i)}
    {m' : ReadM (Taken (List Token × Int) i')}
    (hm : Follows .leading m m' (Beyond x fun p q => p.1 = q.1)) (h : Heading) :
    Follows .leading
      (do
        let ((ts, endLine), rest) ← m
        return (Entry.primitive (← Heading.checked { h with endLine }) ts, rest))
      (do
        let ((ts, endLine), rest) ← m'
        return (Entry.primitive (← Heading.checked { h with endLine }) ts, rest))
      (Beyond x Entry.ButEnd) := by
  refine .bind hm ?_
  rintro ⟨⟨ts, endLine⟩, rest⟩ ⟨⟨ts', endLine'⟩, rest'⟩
    (⟨hsame, htext, hrest⟩ | ⟨hsame, hfault, htokens, hstarts⟩)
  · cases hsame
    exact .bind_again fun h' => .pure (.within ⟨rfl, htext, hrest⟩)
  · obtain rfl : ts = ts' := hsame
    refine .bind (checked_elsewhere h endLine endLine') ?_
    rintro _ _ ⟨rfl, rfl⟩
    exact .pure (.atEnd ⟨endLine', rfl⟩ hfault htokens hstarts)

/-- Where the input ends there is only the terminator to be read. -/
theorem readTokens_atEnd (htokens : i.tokens = []) (hfault : i.fault = none) (line : Int)
    (hi : i' = i.followedBy x) :
    Follows .leading (pure (([], line), i.unread)) (readTokens setup budget i')
      (Beyond x fun p q => p.1 = q.1) where
  ends s s' hs := by
    obtain rfl := hs
    obtain ⟨name, ts, fault, line⟩ := i
    cases htokens
    subst hi
    rw [readTokens, exec_expanding, readValue.eq_def]
    exact .ok (.atEnd rfl hfault rfl ⟨rfl, rfl, rfl⟩) rfl
  stays _ ha := by contradiction

theorem copyDictionary_followed (h : Heading) (name : String) (t : Token) (target : Heading)
    (es : List Entry) (hi : i' = i.followedBy x) :
    Follows .leading (copyDictionary h name t target es i) (copyDictionary h name t target es i')
      (Beyond x Entry.ButEnd) := by
  have hname : i'.name = i.name := hi ▸ rfl
  unfold Statement.copyDictionary
  rw [hname]
  refine .bind (Follows.next_followed hi) fun found found' hfound => ?_
  extract_lets copied copied'
  have hcopied (p : Taken Int i) (p' : Taken Int i')
      (hp : ∀ e : Entry, Beyond x Entry.ButEnd
        (e.withHead { e.head with startLine := h.startLine, endLine := p.1 }, p.2)
        (e.withHead { e.head with startLine := h.startLine, endLine := p'.1 }, p'.2)) :
      Follows .leading (copied p) (copied' p') (Beyond x Entry.ButEnd) :=
    .bind_again fun e => .pure (hp e)
  rcases hfound with @⟨⟨y, line⟩, rest, rest', htext, hrest⟩ | ⟨htokens, hfault, hstarts⟩
  · cases y with
    | terminator =>
      exact hcopied (line, rest.toRest) (line, rest'.toRest) fun e => .within ⟨rfl, htext, hrest⟩
    | _ => exact .fails_bind
  · refine hcopied (t.line, i.unread) (x.line, Input.Less.toRest _) fun e => ?_
    exact .atEnd ⟨x.line, by cases e <;> rfl⟩ hfault htokens hstarts

theorem splice_followed (name : String) (t : Token) (hi : i' = i.followedBy x) :
    Follows .leading (splice setup name t i) (splice setup name t i') (Beyond x Eq) := by
  have hname : i'.name = i.name := hi ▸ rfl
  unfold Statement.splice
  rw [hname]
  refine .bind_again fun around => .bind_again fun target => ?_
  split
  · exact .fails
  · refine .bind (Follows.next_followed hi) ?_
    rintro _ _ (@⟨following, rest, rest', htext, hrest⟩ | ⟨htokens, hfault, hstarts⟩)
    · obtain ⟨y, line⟩ := following
      cases y with
      | terminator => exact .bind_again fun es => .pure (.within ⟨rfl, htext, hrest⟩)
      | _ => exact .bind_again fun es => .pure (.within ⟨rfl, .refl i, hi⟩)
    · exact .bind_again fun es => .pure (.atEnd rfl hfault htokens hstarts)

end Entries

/-! ### Dictionaries and blocks -/

/-- Statements that end before the input does, or must do so, are read in the same way. -/
def EndsWithin (x : Sequel) (closed : Prop) (m : ReadM (Taken (Option Token) i))
    (m' : ReadM (Taken (Option Token) i')) : Prop :=
  ∀ s p u, exec m s = (.ok p, u) → closed ∨ p.1.isSome →
    ∃ q, exec m' s = (.ok q, u) ∧ Within x p q

section Insides

variable {m : ReadM (Taken (Option Token) i)} {m' : ReadM (Taken (Option Token) i')} {closed : Prop}

theorem inDictionary_followed (h : EndsWithin x closed m m') (hc : closed) :
    Follows .leading (inDictionary m) (inDictionary m')
      fun p q => Within x p.1 q.1 ∧ p.2 = q.2 where
  ends s s' hs := by
    obtain rfl := hs
    have h := h { s with scope := s.scope.inner }
    rw [exec_inDictionary, exec_inDictionary]
    rcases hx : exec m { s with scope := s.scope.inner } with ⟨_ | p, u⟩
    · exact .parted trivial (.of_none rfl)
    · obtain ⟨q, hx', hq⟩ := h p u hx (.inl hc)
      rw [hx']
      exact .ok ⟨hq, rfl⟩ rfl
  stays _ ha := by contradiction

/-- A block that the input ends in is a failure. -/
theorem inBlock_followed {β γ : Type} (h : EndsWithin x closed m m')
    {k : Taken (Option Token) i × List Entry → ReadM β}
    {k' : Taken (Option Token) i' × List Entry → ReadM γ} {post : β → γ → Prop}
    (hnone : ∀ r es, ∃ f, k ((none, r), es) = MonadExcept.throw f)
    (hsome : ∀ p q es, Within x p q → Follows .leading (k (p, es)) (k' (q, es)) post) :
    Follows .leading (inBlock m >>= k) (inBlock m' >>= k') post where
  ends s s' hs := by
    obtain rfl := hs
    have h := h { s with scope := .staged [] s.scope }
    rw [exec_bind, exec_bind, Follows.exec_inBlock_eq, Follows.exec_inBlock_eq]
    rcases hx : exec m { s with scope := .staged [] s.scope } with ⟨_ | ⟨ending, r⟩, u⟩
    · exact .parted trivial (.of_none rfl)
    · cases ending with
      | none =>
        obtain ⟨f, hf⟩ := hnone r (Follows.leaveBlock u).1
        dsimp only [Except.map]
        rw [hf]
        exact .parted trivial (.of_none rfl)
      | some t =>
        obtain ⟨q, hx', hq⟩ := h _ u hx (.inr rfl)
        rw [hx']
        exact (hsome _ q _ hq).ends _ _ rfl
  stays _ ha := by contradiction

theorem conditional_followed
    {entries : List String → (i : Input) → ReadM (Taken (Option Token) i)}
    (he : ∀ stops i i', i' = i.followedBy x →
      EndsWithin x False (entries stops i) (entries stops i'))
    (own : Directive) (t : Token) (taken : Bool) (hi : i' = i.followedBy x) :
    Follows .leading (conditional entries own t taken i) (conditional entries own t taken i')
      (Within x) := by
  unfold Statement.conditional
  split
  · refine inBlock_followed (he _ _ _ hi) (fun r es => ⟨_, rfl⟩) ?_
    rintro ⟨ending, rest⟩ ⟨_, rest'⟩ es ⟨rfl, htext, hrest⟩
    dsimp only
    split
    · exact .fails
    · split
      · refine .bind (.lift (skipBranch_followed hrest)) ?_
        rintro ⟨_, more⟩ ⟨_, more'⟩ ⟨-, hmore, hmore'⟩
        exact .pure ⟨rfl, htext.trans hmore, hmore'⟩
      · exact .pure ⟨rfl, htext, hrest⟩
  · refine .bind (.lift (skipBranch_followed hi)) ?_
    rintro ⟨ending, rest⟩ ⟨_, rest'⟩ ⟨rfl, htext, hrest⟩
    dsimp only
    split
    · refine inBlock_followed (he _ _ _ hrest) (fun r es => ⟨_, rfl⟩) ?_
      rintro ⟨ending, more⟩ ⟨_, more'⟩ es ⟨rfl, hmore, hmore'⟩
      dsimp only
      split
      · exact .fails
      · split
        · exact .fails
        · exact .pure ⟨rfl, htext.trans hmore, hmore'⟩
    · exact .pure ⟨rfl, htext, hrest⟩

end Insides

/-! ### Statements -/

section Statements

variable {setup : Setup} {budget : Nat} {run : DirectiveRunner}

/-- Statements of inputs with fewer than `size` tokens. -/
def FollowedBelow (x : Sequel) (setup : Setup) (budget : Nat) (run : DirectiveRunner)
    (size : Nat) : Prop :=
  ∀ (i i' : Input), i.size < size → i' = i.followedBy x → ∀ n closing stops,
    EndsWithin x (closing.isSome = true) (readEntries setup budget run n closing stops i)
      (readEntries setup budget run n closing stops i')

theorem readEntry_followed (n : Nat) (h : Heading) (hi : i' = i.followedBy x)
    (hbelow : FollowedBelow x setup budget run i.size) :
    Follows .leading (readEntry setup budget run n h i) (readEntry setup budget run n h i')
      (Beyond x Entry.ButEnd) := by
  have hname : i'.name = i.name := hi ▸ rfl
  rw [readEntry.eq_def setup budget run n h i, readEntry.eq_def setup budget run n h i', hname]
  have hprimitive : Follows .leading (readEntry.readPrimitive setup budget h i)
      (readEntry.readPrimitive setup budget h i') (Beyond x Entry.ButEnd) :=
    primitive_followed (readTokens_followed hi) h
  refine .bind (Follows.next_followed hi) ?_
  rintro _ _ (@⟨⟨y, line⟩, rest, rest', htext, hrest⟩ | ⟨htokens, hfault, hstarts⟩)
  · cases y with
    | opener b =>
      cases b with
      | brace =>
        dsimp only
        split
        · exact .fails_bind
        · refine .bind_again fun h' => ?_
          have hinside := hbelow rest.input rest'.input rest.lt hrest (n + 1) (some h') []
          refine .bind (inDictionary_followed hinside rfl) ?_
          rintro ⟨⟨ending, more⟩, es⟩ ⟨⟨_, more'⟩, _⟩ ⟨⟨rfl, hmore, hmore'⟩, rfl⟩
          exact .pure (.within ⟨rfl, htext.trans hmore, hmore'⟩)
      | round | square => exact hprimitive
    | reference name =>
      refine .bind_again fun around => ?_
      dsimp only
      split
      · refine .bind (copyDictionary_followed h name _ _ _ hrest) ?_
        rintro ⟨e, more⟩ ⟨e', more'⟩ (⟨rfl, hmore, hmore'⟩ | ⟨hend, hfault, htokens, hstarts⟩)
        · exact .pure (.within ⟨rfl, htext.trans hmore, hmore'⟩)
        · exact .pure (.atEnd hend (htext.fault.symm.trans hfault) htokens (htext.name ▸ hstarts))
      · exact hprimitive
    | _ => exact hprimitive
  · exact primitive_followed (readTokens_atEnd htokens hfault h.startLine hi) h

/-- What becomes of a statement if more follows the input: it is read in the same way, or it takes
the terminator, and then it brings the same entries, or one that is the same but for its end. -/
inductive StatementGoesOn (x : Sequel) (m' : ReadM (Taken (List Entry) i')) (s : ReadState)
    (p : Taken (List Entry) i) (u : ReadState) : Prop
  | within {q : Taken (List Entry) i'} (hx : exec m' s = (.ok q, u)) (hq : Within x p q)
  | ended {q : Taken (List Entry) i'} (hfault : i.fault = none) (htokens : p.2.input.tokens = [])
    (hx : exec m' s = (.ok q, u)) (hq : q.2.input.Starts x i.name)
  | elsewhere {e e' : Entry} {v : ReadState} (hfault : i.fault = none)
    (htokens : p.2.input.tokens = []) (he : e.ButEnd e') (hp : exec (place e) v = (.ok p.1, u))
    (hx : ∀ es w, exec (place e') v = (.ok es, w) →
      ∃ q : Taken (List Entry) i', exec m' s = (.ok q, w) ∧ q.2.input.Starts x i.name)

/-- A statement brings what is read first. -/
def bringing {β : Type} (i : Input) (m : ReadM (Taken β i)) (bring : β → ReadM (List Entry)) :
    ReadM (Taken (List Entry) i) := ExceptT.adapt (Failure.within i.name) do
  let (b, rest) ← m
  return (← bring b, rest)

theorem exec_bringing {β : Type} (m : ReadM (Taken β i)) (bring : β → ReadM (List Entry))
    (s : ReadState) : exec (bringing i m bring) s = match exec m s with
      | (.ok (b, r), v) =>
        (((exec (bring b) v).1.map (·, r)).mapError (Failure.within i.name), (exec (bring b) v).2)
      | (.error f, v) => (.error (f.within i.name), v) := by
  rw [bringing, exec_adapt, exec_bind]
  rcases exec m s with ⟨_ | ⟨b, r⟩, v⟩
  · rfl
  · dsimp only
    rw [exec_bind]
    rcases exec (bring b) v with ⟨_ | es, w⟩ <;> rfl

/-- Either what a statement brings is read in the same way, or the second run takes the
terminator. -/
theorem bringing_followed {β : Type} {post : β → β → Prop} {m : ReadM (Taken β i)}
    {m' : ReadM (Taken β i')} (hm : Follows .leading m m' (Beyond x post))
    {bring : β → ReadM (List Entry)} {s : ReadState} {p : Taken (List Entry) i} {u : ReadState}
    (h : exec (bringing i m bring) s = (.ok p, u)) :
    (∃ q, exec (bringing i' m' bring) s = (.ok q, u) ∧ Within x p q) ∨
      ∃ b b' v, post b b' ∧ i.fault = none ∧ p.2.input.tokens = [] ∧
        exec (bring b) v = (.ok p.1, u) ∧ ∀ es w, exec (bring b') v = (.ok es, w) →
          ∃ q, exec (bringing i' m' bring) s = (.ok q, w) ∧ q.2.input.Starts x i.name := by
  have hends := hm.ends s s rfl
  rw [exec_bringing] at h ⊢
  generalize exec m s = q, exec m' s = q' at h hends
  cases hends with
  | error | parted => cases h
  | @ok a a' v v' hab hv =>
    obtain rfl : v = v' := hv
    obtain ⟨⟨b, r⟩, b', r'⟩ := a, a'
    dsimp only at h ⊢
    rcases hb : exec (bring b) v with ⟨_ | es, w⟩
    all_goals rw [hb] at h; cases h
    rcases hab with ⟨hsame, htext, hrest⟩ | ⟨hpost, hfault, htokens, hstarts⟩
    · obtain rfl : b = b' := hsame
      rw [hb]
      exact .inl ⟨_, rfl, rfl, htext, hrest⟩
    · refine .inr ⟨b, b', v, hpost, hfault, htokens, hb, fun es w hes => ?_⟩
      rw [hes]
      exact ⟨_, rfl, hstarts⟩

theorem readStatement_followed (n : Nat) (t : Token) (hi : i' = i.followedBy x)
    (hrun : ∀ n t i i', i' = i.followedBy x → Follows .leading (run n t i) (run n t i') (Within x))
    (hbelow : FollowedBelow x setup budget run i.size) {s : ReadState} {p : Taken (List Entry) i}
    {u : ReadState} (h : exec (readStatement setup budget run n t i) s = (.ok p, u)) :
    StatementGoesOn x (readStatement setup budget run n t i') s p u := by
  rw [readStatement.eq_def] at h ⊢
  have hall {m : ReadM (Taken (List Entry) i)} {m' : ReadM (Taken (List Entry) i')}
      (hm : Follows .leading m m' (Beyond x Eq)) (h : exec (bringing i m placeAll) s = (.ok p, u)) :
      StatementGoesOn x (bringing i' m' placeAll) s p u := by
    obtain ⟨q, hx, hq⟩ | ⟨es, _, v, rfl, hfault, htokens, hplace, hx⟩ := bringing_followed hm h
    · exact .within hx hq
    · obtain ⟨q, hx, hq⟩ := hx _ _ hplace
      exact .ended hfault htokens hx hq
  have hone (k : Heading)
      (h : exec (bringing i (readEntry setup budget run n k i) place) s = (.ok p, u)) :
      StatementGoesOn x (bringing i' (readEntry setup budget run n k i') place) s p u := by
    obtain ⟨q, hx, hq⟩ | ⟨e, e', v, he, hfault, htokens, hplace, hx⟩ :=
      bringing_followed (readEntry_followed n k hi hbelow) h
    · exact .within hx hq
    · exact .elsewhere hfault htokens he hplace hx
  obtain ⟨y, line⟩ := t
  cases y with
  | directive name => exact hall ((hrun n _ i i' hi).mono fun p q hw => .within hw) h
  | reference name => exact hall (splice_followed name _ hi) h
  | word w => exact hone _ h
  | quoted w => exact hone _ h
  | _ => cases h

/-- Where the input ends, so do its statements; no brace and no directive has ended them. -/
theorem exec_readEntries_atEnd (htokens : i.tokens = []) {n : Nat} {closing : Option Heading}
    {stops : List String} {s u : ReadState} {p : Taken (Option Token) i}
    (h : exec (readEntries setup budget run n closing stops i) s = (.ok p, u)) :
    closing = none ∧ p = (none, i.unread) ∧ u = s ∧ i.fault = none := by
  obtain ⟨name, ts, fault, line⟩ := i
  cases htokens
  rw [readEntries.eq_def] at h
  cases fault with
  | some f => cases h
  | none =>
    cases closing with
    | some => cases h
    | none =>
      cases h
      exact ⟨rfl, rfl, rfl, rfl⟩

/-- Statements that come after what has been read already. -/
theorem EndsWithin.behind {closed : Prop} (rest : i.Rest) (rest' : i'.Rest)
    (htext : i.SameText rest.input) {m : ReadM (Taken (Option Token) rest.input)}
    {m' : ReadM (Taken (Option Token) rest'.input)} (h : EndsWithin x closed m m') :
    EndsWithin x closed (do let (ending, last) ← m; return (ending, rest.onward last))
      (do let (ending, last) ← m'; return (ending, rest'.onward last)) := by
  intro s p u hp hends
  rw [exec_bind] at hp ⊢
  rcases hx : exec m s with ⟨_ | ⟨ending, last⟩, v⟩
  all_goals rw [hx] at hp; cases hp
  obtain ⟨⟨_, last'⟩, hx', rfl, hlast, hlast'⟩ := h s _ _ hx hends
  rw [hx']
  exact ⟨_, rfl, rfl, htext.trans hlast, hlast'⟩

/-- A statement that others come after has ended before the input does. -/
theorem endsWithin_statement (n : Nat) (closing : Option Heading) (stops : List String) (t : Token)
    {rest : i.Less} {rest' : i'.Less} (htext : i.SameText rest.input)
    (hrest : rest'.input = rest.input.followedBy x)
    (hrun : ∀ n t i i', i' = i.followedBy x → Follows .leading (run n t i) (run n t i') (Within x))
    (hbelow : FollowedBelow x setup budget run i.size) :
    EndsWithin x (closing.isSome = true)
      (do
        let (_, more) ← readStatement setup budget run n t rest.input
        let (ending, last) ← readEntries setup budget run n closing stops (rest.onward more).input
        return (ending, ((rest.onward more).onward last).toRest))
      (do
        let (_, more) ← readStatement setup budget run n t rest'.input
        let (ending, last) ← readEntries setup budget run n closing stops (rest'.onward more).input
        return (ending, ((rest'.onward more).onward last).toRest)) := by
  intro s p u h hends
  have hless := rest.lt
  rw [exec_bind] at h ⊢
  rcases hx : exec (readStatement setup budget run n t rest.input) s with ⟨_ | ⟨es, more⟩, v⟩
  all_goals rw [hx] at h
  · cases h
  have hended (htokens : more.input.tokens = []) : False := by
    dsimp only at h
    rw [exec_bind] at h
    rcases hy : exec (readEntries setup budget run n closing stops (rest.onward more).input) v
      with ⟨_ | ⟨ending, last⟩, w⟩
    all_goals rw [hy] at h; cases h
    obtain ⟨rfl, hp, -⟩ := exec_readEntries_atEnd htokens hy
    cases hp
    simp at hends
  cases readStatement_followed n t hrest hrun (fun j j' hj => hbelow j j' (by omega)) hx with
  | ended _ htokens => exact (hended htokens).elim
  | elsewhere _ htokens => exact (hended htokens).elim
  | @within q hx' hq =>
    obtain ⟨es', more'⟩ := q
    have hbehind := hbelow more.input more'.input (Nat.lt_of_le_of_lt more.le hless) hq.rest n
      closing stops
    rw [hx']
    exact EndsWithin.behind (rest.onward more).toRest (rest'.onward more').toRest
      (htext.trans hq.text) hbehind v p u h hends

/-- Statements are read in the same way as long as they end before the input does. -/
theorem followedBelow
    (hrun : ∀ n t i i', i' = i.followedBy x → Follows .leading (run n t i) (run n t i') (Within x))
    (size : Nat) : FollowedBelow x setup budget run size := by
  induction size with
  | zero => exact fun i i' h => absurd h (Nat.not_lt_zero _)
  | succ size ih =>
    intro i i' hsize hi n closing stops s p u h hends
    have hbelow : FollowedBelow x setup budget run i.size := fun j j' hj => ih j j' (by omega)
    have hname : i'.name = i.name := hi ▸ rfl
    rw [readEntries.eq_def, exec_bind, exec_lift] at h ⊢
    have hnext : (Link.leading : Link ReadState).Meets (Found x) i.next i'.next :=
      Input.next_meets hi
    generalize i.next = found, i'.next = found' at h hnext ⊢
    rcases hnext with @⟨_, _, (@⟨t, rest, rest', htext, hrest⟩ | -)⟩ | - | -
    · dsimp only at h ⊢
      split at h
      · next ht =>
        rw [if_pos ht]
        split at h
        · next hc =>
          cases h
          exact ⟨_, by rw [if_pos hc]; rfl, rfl, htext, hrest⟩
        · cases h
      next ht =>
      rw [if_neg ht]
      split at h
      · next ht =>
        rw [if_pos ht]
        exact EndsWithin.behind rest.toRest rest'.toRest htext
          (hbelow rest.input rest'.input rest.lt hrest n closing stops) s p u h hends
      next ht =>
      rw [if_neg ht]
      split at h
      · next ht =>
        rw [if_pos ht]
        cases h
        exact ⟨_, rfl, rfl, htext, hrest⟩
      · next ht =>
        rw [if_neg ht]
        exact endsWithin_statement n closing stops t htext hrest hrun hbelow s p u h hends
    · cases closing with
      | some => cases h
      | none =>
        cases h
        simp at hends
    · cases h
    · cases h

theorem runDirective_followed (budget n : Nat) (t : Token) (hi : i' = i.followedBy x) :
    Follows .leading (runDirective setup budget n t i) (runDirective setup budget n t i')
      (Within x) := by
  induction budget generalizing n t i i' with
  | zero => exact .fails
  | succ budget ih =>
    have hname : i'.name = i.name := hi ▸ rfl
    have hentries (stops : List String) (j j' : Input) (hj : j' = j.followedBy x) :
        EndsWithin x False (readEntries setup budget (runDirective setup budget) n none stops j)
          (readEntries setup budget (runDirective setup budget) n none stops j') :=
      fun s p u h hends => followedBelow (fun n t i i' hi => ih n t hi) (j.size + 1) j j'
        (Nat.lt_succ_self _) hj n none stops s p u h (.inr (hends.resolve_left id))
    unfold Statement.runDirective
    rw [hname]
    refine .bind_again fun d => ?_
    cases d with
    | includeFile optional =>
      refine .bind (expanding_leading fun c => Follows.locate_followed c optional t hi) ?_
      rintro ⟨found, rest⟩ ⟨_, rest'⟩ ⟨rfl, htext, hrest⟩
      dsimp only
      split
      · exact .pure ⟨rfl, htext, hrest⟩
      · exact .bind_again fun file => .bind_again fun ⟨_, es⟩ => .pure ⟨rfl, htext, hrest⟩
    | ifEqual =>
      refine .bind (argument_followed hi) ?_
      rintro ⟨left, first⟩ ⟨_, first'⟩ ⟨rfl, hfirst, hfirst'⟩
      refine .bind (argument_followed hfirst') ?_
      rintro ⟨right, second⟩ ⟨_, second'⟩ ⟨rfl, hsecond, hsecond'⟩
      refine .bind (conditional_followed hentries .ifEqual t _ hsecond') ?_
      rintro ⟨es, more⟩ ⟨_, more'⟩ ⟨rfl, hmore, hmore'⟩
      exact .pure ⟨rfl, (hfirst.trans hsecond).trans hmore, hmore'⟩
    | ifTrue =>
      refine .bind (argument_followed hi) ?_
      rintro ⟨condition, rest⟩ ⟨_, rest'⟩ ⟨rfl, htext, hrest⟩
      dsimp only
      split
      · exact .fails
      · refine .bind (conditional_followed hentries .ifTrue t _ hrest) ?_
        rintro ⟨es, more⟩ ⟨_, more'⟩ ⟨rfl, hmore, hmore'⟩
        exact .pure ⟨rfl, htext.trans hmore, hmore'⟩
    | remove =>
      refine .bind (argument_followed hi) ?_
      rintro ⟨names, rest⟩ ⟨_, rest'⟩ ⟨rfl, htext, hrest⟩
      have hsame : Statement.remove t i' names = Statement.remove t i names := by
        unfold Statement.remove misuse
        rw [hname]
      dsimp only
      rw [hsame]
      exact .bind_again fun _ => .pure ⟨rfl, htext, hrest⟩
    | inputMode => exact changeMode_followed t hi
    | otherwise | endIf | calculate | negate | blank => exact .fails

end Statements

end Sequel

end CaseDict
