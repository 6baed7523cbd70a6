import CaseDict.Proofs.Framing
import CaseDict.Proofs.Levels
import CaseDict.Proofs.Watched
/-! # Reads that differ from some place on

Two texts begin alike, and then differ. If some text that begins so is read, and goes on with a
directive of a conditional, then all reads of such texts come to the same place: statements are read
there, or a branch is passed over (`Place`). From there on each text goes its way, and if what the
reads come to at the place is related, so is what they come to in the end (`Comparison.entries`). -/

namespace CaseDict

open Expansion Statement

variable {α β γ δ σ : Type}

theorem exec_bind_ok {m : ExceptT Failure (StateM σ) α} {k : α → ExceptT Failure (StateM σ) β}
    {s u : σ} {b : β} : exec (m >>= k) s = (.ok b, u) ↔
      ∃ a t, exec m s = (.ok a, t) ∧ exec (k a) t = (.ok b, u) := by
  rw [exec_bind]
  rcases exec m s with ⟨_ | a, t⟩ <;> simp

theorem exec_lift_ok {r : Except Failure α} {s u : σ} {a : α} :
    exec (liftM r : ExceptT Failure (StateM σ) α) s = (.ok a, u) ↔ r = .ok a ∧ u = s := by
  rw [exec_lift, Prod.mk.injEq]
  exact and_congr_right fun _ => eq_comm

theorem exec_adapt_ok {g : Failure → Failure} {m : ExceptT Failure (StateM σ) α} {s u : σ} {a : α} :
    exec (ExceptT.adapt g m) s = (.ok a, u) ↔ exec m s = (.ok a, u) := by
  rw [exec_adapt]
  rcases exec m s with ⟨_ | a', t⟩ <;> simp [Except.mapError]

theorem Link.Ends.bind {L : Link σ} {m : ExceptT Failure (StateM σ) α}
    {m' : ExceptT Failure (StateM σ) β} {k : α → ExceptT Failure (StateM σ) γ}
    {k' : β → ExceptT Failure (StateM σ) δ} {mid : α → β → Prop} {post : γ → δ → Prop} {s s' : σ}
    (h : L.Ends mid (exec m s) (exec m' s')) (hl : L.after = none)
    (hk : ∀ a b, mid a b → Follows L (k a) (k' b) post) :
    L.Ends post (exec (m >>= k) s) (exec (m' >>= k') s') := by
  rw [exec_bind, exec_bind]
  generalize exec m s = p, exec m' s' = p' at h ⊢
  cases h with
  | ok hab ht => exact (hk _ _ hab).ends _ _ ht
  | error hf => exact .error hf
  | parted hf => exact .parted hf (.of_none hl)

/-- The computation gives a result and leaves an input and a state. -/
def Gives {i : Input} (m : ExceptT Failure (StateM σ) (Taken α i)) (s : σ) (a : α) (j : Input)
    (u : σ) : Prop := ∃ rest : i.Rest, exec m s = (.ok (a, rest), u) ∧ rest.input = j

/-- Goes on with what was read. -/
def andThen (m : (i : Input) → ReadM (Taken α i)) (k : α → (i : Input) → ReadM (Taken β i))
    (i : Input) : ReadM (Taken β i) := do
  let (a, rest) ← m i
  let (b, more) ← k a rest.input
  return (b, rest.onward more)

theorem gives_andThen {m : (i : Input) → ReadM (Taken α i)}
    {k : α → (i : Input) → ReadM (Taken β i)} {i j : Input} {s u : ReadState} {b : β} :
    Gives (andThen m k i) s b j u ↔
      ∃ a l t, Gives (m i) s a l t ∧ Gives (k a l) t b j u := by
  constructor
  · rintro ⟨left, hx, rfl⟩
    replace hx := exec_bind_ok.mp hx
    obtain ⟨⟨a, rest⟩, t, hm, hx⟩ := hx
    replace hx := exec_bind_ok.mp hx
    obtain ⟨⟨b, more⟩, t', hk, hx⟩ := hx
    cases hx
    exact ⟨a, _, t, ⟨rest, hm, rfl⟩, more, hk, rfl⟩
  · rintro ⟨a, l, t, ⟨rest, hm, rfl⟩, more, hk, rfl⟩
    exact ⟨rest.onward more, exec_bind_ok.mpr ⟨_, _, hm, exec_bind_ok.mpr ⟨_, _, hk, rfl⟩⟩, rfl⟩

theorem gives_adapt {g : Failure → Failure} {i j : Input} {m : ExceptT Failure (StateM σ) (Taken α i)}
    {s u : σ} {a : α} : Gives (ExceptT.adapt g m) s a j u ↔ Gives m s a j u := by
  simp only [Gives, exec_adapt_ok]

/-- The tail begins with a directive of a conditional. -/
def Tail.Branches (r : Tail) : Prop := ∃ t more, r.tokens = t :: more ∧ t.isBranching = true

/-- Where a read goes on. -/
inductive Place where
  /-- Statements are read. -/
  | entries (budget nesting : Nat) (closing : Option Heading) (stops : List String)
  /-- A branch is passed over. -/
  | skip (own : Directive) (t : Token) (allow : Bool) (inner : Nat)

namespace Place

/-- Statements are read that no directive ends. -/
def IsEndless : Place → Prop
  | entries _ _ _ stops => stops = []
  | skip .. => False

/-- Statements are read that only the end of a branch can end, if any directive. -/
def IsProper : Place → Prop
  | entries _ _ _ stops => stops ⊆ branchEnds
  | skip .. => True

/-- Reads on at the place. -/
def read (setup : Setup) : Place → (i : Input) → ReadM (Taken (Option Token) i)
  | entries budget nesting closing stops, i =>
    readEntries setup budget (runDirective setup budget) nesting closing stops i
  | skip own t allow inner, i => do
    let (ending, rest) ← skipBranch own t allow inner i
    return (some ending, rest)

/-- Reads on at the place under a watch. -/
def watched (watch : Watch) (setup : Setup) : Place → (i : Input) → ReadM (Taken (Option Token) i)
  | entries budget nesting closing stops, i =>
    Watched.readEntries watch setup budget (Watched.runDirective watch setup budget) nesting closing
      stops i
  | skip own t allow inner, i => read setup (skip own t allow inner) i

end Place

/-- How two reads are compared when they have gone different ways. -/
structure Comparison (watch : Watch) (setup : Setup) where
  /-- The states are related. -/
  rel : Scope.Kind → ReadState → ReadState → Prop
  /-- What holds of the state that both reads are in before. -/
  holds : Scope.Kind → ReadState → Prop
  inputs : Input → Input → Prop
  tokens : Token → Token → Prop
  entry : Entry → Entry → Prop
  contents : List Entry → List Entry → Prop
  refl {x : Scope.Kind} {s : ReadState} (h : holds x s) : rel x s s
  statement {x : Scope.Kind} {budget n : Nat} {t : Token} {i : Input} {s u : ReadState}
    {p : Taken (List Entry) i} (h : holds x s)
    (hr : exec (Watched.readStatement watch setup budget (Watched.runDirective watch setup budget)
      n t i) s = (.ok p, u)) : holds x u
  reporting {x : Scope.Kind} {s : ReadState} (h : holds x s) (log : List Event) :
    holds x { s with log }
  inner {x : Scope.Kind} {s : ReadState} (h : holds x s) :
    holds .dictionary { s with scope := s.scope.inner }
  block {x : Scope.Kind} {s : ReadState} (h : holds x s) :
    holds (.block x) { s with scope := .staged [] s.scope }
  leave {x : Scope.Kind} {s : ReadState} (h : holds (.block x) s) :
    ∃ es below, s.scope = .staged es below ∧ holds x { s with scope := below }
  enter {x : Scope.Kind} {s s' : ReadState} (h : rel x s s') :
    rel (.block x) { s with scope := .staged [] s.scope } { s' with scope := .staged [] s'.scope }
  leaveDictionary {x : Scope.Kind} {s t t' : ReadState} (h : rel .dictionary t t') (hs : rel x s s) :
    rel x { t with scope := s.scope } { t' with scope := s.scope } ∧
      contents t.scope.entries t'.scope.entries
  leaveBlock {x : Scope.Kind} {t t' : ReadState} (h : rel (.block x) t t') :
    rel x (Follows.leaveBlock t).2 (Follows.leaveBlock t').2 ∧
      contents (Follows.leaveBlock t).1 (Follows.leaveBlock t').1
  closes (h : Heading) {ending ending' : Option Token} (he : Option.Rel tokens ending ending')
    {es es' : List Entry} (hes : contents es es') :
    entry (.dictionary { h with endLine := (ending.map (·.line)).getD (-1) } es)
      (.dictionary { h with endLine := (ending'.map (·.line)).getD (-1) } es')
  same (es : List Entry) : contents es es
  divides {t t' : Token} (h : tokens t t') : Statement.isOtherwise t' = Statement.isOtherwise t
  places {x : Scope.Kind} {e e' : Entry} (h : entry e e') :
    Follows (.loosely (rel x)) (place e) (place e') Any
  placesAll {x : Scope.Kind} {es es' : List Entry} (h : contents es es') :
    Follows (.loosely (rel x)) (placeAll es) (placeAll es') Any
  goesOn {x : Scope.Kind} {i i' : Input} (hi : inputs i i') (budget n : Nat)
    (closing : Option Heading) (stops : List String) :
    Follows (.loosely (rel x)) (readEntries setup budget (runDirective setup budget) n closing stops i)
      (readEntries setup budget (runDirective setup budget) n closing stops i')
      fun p q => Option.Rel tokens p.1 q.1 ∧ inputs p.2.input q.2.input
  passesOver {x : Scope.Kind} {i i' : Input} (hi : inputs i i') (own : Directive) (t : Token)
    (allow : Bool) (inner : Nat) :
    (Link.loosely (rel x)).Meets (fun p q => tokens p.1 q.1 ∧ inputs p.2.input q.2.input)
      (skipBranch own t allow inner i) (skipBranch own t allow inner i')

namespace Comparison

variable {watch : Watch} {setup : Setup} (C : Comparison watch setup)

abbrev link (x : Scope.Kind) : Link ReadState := .loosely (C.rel x)

/-- The results are related, and so are the inputs left. -/
structure Leaves {i i' : Input} (post : α → β → Prop) (p : Taken α i) (q : Taken β i') : Prop where
  result : post p.1 q.1
  rest : C.inputs p.2.input q.2.input

section Courses

variable (r₀ : Tail) (name : String)

/-- The read comes to a place before the tail, with `d` conditionals open at its beginning, and what
the reads come to depends on what they come to there. -/
inductive Within (op : (i : Input) → ReadM (Taken α i)) (post : α → α → Prop)
    (deep : Place → Nat → Prop) (d : Nat) (pre : List Token) (line : Int) (x : Scope.Kind)
    (s : ReadState) : Prop
  | at (P : Place) {y : Scope.Kind} {s' : ReadState} {line' : Int} {d' : Nat} (hs : C.holds y s')
    (ok : ∃ a j u, Gives (P.watched watch setup (r₀.behind [] name line')) s' a j u)
    (levels : Token.levels d pre = some d') (hproper : P.IsProper) (hdeep : deep P d')
    (lifts : ∀ (r r' : Tail) i i', i = r.behind pre name line → i' = r'.behind pre name line →
      (C.link y).Ends (C.Leaves (Option.Rel C.tokens)) (exec (P.read setup (r.behind [] name line')) s')
        (exec (P.read setup (r'.behind [] name line')) s') →
      (C.link x).Ends (C.Leaves post) (exec (op i) s) (exec (op i') s))

/-- The read is done before the tail, whatever the tail is, or it comes to a place before it. -/
inductive Course (op : (i : Input) → ReadM (Taken α i)) (post : α → α → Prop)
    (deep : Place → Nat → Prop) (neutral : List Token → Prop) (d : Nat) (pre : List Token)
    (line : Int) (x : Scope.Kind) (s : ReadState) (a : α) (j : Input) (u : ReadState) : Prop
  | done {ts rest : List Token} {line' : Int} (hpre : pre = ts ++ rest) (hts : neutral ts)
    (hj : j = r₀.behind rest name line')
    (gives : ∀ (r : Tail) i, i = r.behind pre name line → Gives (op i) s a (r.behind rest name line') u)
  | within (h : C.Within r₀ name op post deep d pre line x s)

end Courses

variable {C} in
/-- What an operation inside comes to decides what the whole operation comes to. -/
theorem Within.lift {r₀ : Tail} {name : String} {op : (i : Input) → ReadM (Taken α i)}
    {post : α → α → Prop} {deep : Place → Nat → Prop} {d : Nat} {pre : List Token} {line : Int}
    {x : Scope.Kind} {s : ReadState} {inside : (i : Input) → ReadM (Taken β i)} {mid : β → β → Prop}
    {deep' : Place → Nat → Prop} {d' : Nat} {pre' : List Token} {line' : Int} {x' : Scope.Kind}
    {s' : ReadState} (h : C.Within r₀ name inside mid deep' d' pre' line' x' s')
    (hlevels : ∀ l, Token.levels d' pre' = some l → Token.levels d pre = some l)
    (hdeep : ∀ P l, deep' P l → deep P l)
    (hop : ∀ (r r' : Tail) i i', i = r.behind pre name line → i' = r'.behind pre name line →
      (∀ j j', j = r.behind pre' name line' → j' = r'.behind pre' name line' →
        (C.link x').Ends (C.Leaves mid) (exec (inside j) s') (exec (inside j') s')) →
      (C.link x).Ends (C.Leaves post) (exec (op i) s) (exec (op i') s)) :
    C.Within r₀ name op post deep d pre line x s := by
  obtain ⟨P, hs, ok, levels, hproper, hin, lifts⟩ := h
  refine ⟨P, hs, ok, hlevels _ levels, hproper, hdeep _ _ hin, fun r r' i i' hi hi' hP => ?_⟩
  exact hop r r' i i' hi hi' fun j j' hj hj' => lifts r r' j j' hj hj' hP

section Congruence

variable {i i' j j' : Input} {m : ReadM (Taken α i)} {m' : ReadM (Taken α i')} {n : ReadM (Taken β j)}
  {n' : ReadM (Taken β j')} {s s' t t' : ReadState} {x : Scope.Kind}

/-- What two reads come to is related if what they depend on is. -/
theorem ends_of_gives {mid : β → β → Prop} {post : α → α → Prop}
    (h : ∀ a k u, Gives m s a k u → ∃ b, Gives n t b k u ∧ ∀ b' k' u', mid b b' →
      Gives n' t' b' k' u' → ∃ a', post a a' ∧ Gives m' s' a' k' u')
    (hends : (C.link x).Ends (C.Leaves mid) (exec n t) (exec n' t')) :
    (C.link x).Ends (C.Leaves post) (exec m s) (exec m' s') := by
  rcases hm : exec m s with ⟨_ | ⟨a, rest⟩, u⟩
  · exact .parted trivial (.of_none rfl)
  obtain ⟨b, ⟨more, hn, hmore⟩, h⟩ := h a _ u ⟨rest, hm, rfl⟩
  rw [hn] at hends
  generalize hn' : exec n' t' = p at hends
  cases hends with
  | @ok _ b' _ u' hpost hu =>
    obtain ⟨b', more'⟩ := b'
    obtain ⟨a', hpost', rest', hm', hrest'⟩ := h b' _ u' hpost.result ⟨more', hn', rfl⟩
    rw [hm']
    refine .ok ⟨hpost', ?_⟩ hu
    have hrest := hpost.rest
    rwa [← hmore, hrest']

theorem ends_congr {n : ReadM (Taken α j)} {n' : ReadM (Taken α j')} {post : α → α → Prop}
    (h : ∀ a k u, Gives m s a k u → Gives n t a k u)
    (h' : ∀ a k u, Gives n' t' a k u → Gives m' s' a k u)
    (hends : (C.link x).Ends (C.Leaves post) (exec n t) (exec n' t')) :
    (C.link x).Ends (C.Leaves post) (exec m s) (exec m' s') :=
  C.ends_of_gives (fun a k u hm => ⟨a, h a k u hm, fun b k' u' hb hn => ⟨b, hb, h' b k' u' hn⟩⟩) hends

end Congruence

variable {C} in
/-- An operation that gives what one inside gives takes the same course. -/
theorem Course.of_gives {r₀ : Tail} {name : String} {op inside : (i : Input) → ReadM (Taken α i)}
    {post : α → α → Prop} {deep : Place → Nat → Prop} {neutral neutral' : List Token → Prop}
    {d d' : Nat} {pre pre' : List Token} {line line' : Int} {x : Scope.Kind} {s u : ReadState} {a : α}
    {j : Input} (h : C.Course r₀ name inside post deep neutral' d' pre' line' x s a j u)
    (hop : ∀ (r : Tail) b k v, Gives (op (r.behind pre name line)) s b k v ↔
      Gives (inside (r.behind pre' name line')) s b k v)
    (hpre : ∀ ts rest, pre' = ts ++ rest → neutral' ts → ∃ us, pre = us ++ rest ∧ neutral us)
    (hlevels : ∀ l, Token.levels d' pre' = some l → Token.levels d pre = some l) :
    C.Course r₀ name op post deep neutral d pre line x s a j u := by
  cases h with
  | @done ts rest line'' hpre' hts hj gives =>
    obtain ⟨us, hus, hneutral⟩ := hpre ts rest hpre' hts
    refine .done hus hneutral hj fun r i hi => ?_
    rw [hi]
    exact (hop r a _ u).mpr (gives r _ rfl)
  | within h =>
    refine .within (h.lift hlevels (fun _ _ => id) fun r r' i i' hi hi' h => ?_)
    subst hi hi'
    exact C.ends_congr (fun b k v => (hop r b k v).mp) (fun b k v => (hop r' b k v).mpr)
      (h _ _ rfl rfl)

variable {C} in
theorem Course.mono {r₀ : Tail} {name : String} {op : (i : Input) → ReadM (Taken α i)}
    {post : α → α → Prop} {deep : Place → Nat → Prop} {neutral neutral' : List Token → Prop} {d : Nat}
    {pre : List Token} {line : Int} {x : Scope.Kind} {s u : ReadState} {a : α} {j : Input}
    (h : C.Course r₀ name op post deep neutral' d pre line x s a j u)
    (hneutral : ∀ ts, neutral' ts → neutral ts) :
    C.Course r₀ name op post deep neutral d pre line x s a j u :=
  h.of_gives (fun _ _ _ _ => .rfl) (fun ts _ hpre hts => ⟨ts, hpre, hneutral ts hts⟩) fun _ => id

variable {C} in
theorem Course.deepen {r₀ : Tail} {name : String} {op : (i : Input) → ReadM (Taken α i)}
    {post : α → α → Prop} {deep deep' : Place → Nat → Prop} {neutral : List Token → Prop} {d : Nat}
    {pre : List Token} {line : Int} {x : Scope.Kind} {s u : ReadState} {a : α} {j : Input}
    (h : C.Course r₀ name op post deep' neutral d pre line x s a j u)
    (hdeep : ∀ P l, deep' P l → deep P l) :
    C.Course r₀ name op post deep neutral d pre line x s a j u := by
  cases h with
  | done hpre hts hj gives => exact .done hpre hts hj gives
  | within h => exact .within (h.lift (fun _ => id) hdeep fun _ _ i i' hi hi' h => h i i' hi hi')

variable {C} in
/-- Operations that do the same take the same course. -/
theorem Course.congr {r₀ : Tail} {name : String} {op op' : (i : Input) → ReadM (Taken α i)}
    {post : α → α → Prop} {deep : Place → Nat → Prop} {neutral : List Token → Prop} {d : Nat}
    {pre : List Token} {line : Int} {x : Scope.Kind} {s u : ReadState} {a : α} {j : Input}
    (h : C.Course r₀ name op' post deep neutral d pre line x s a j u)
    (hop : ∀ r : Tail, exec (op (r.behind pre name line)) s = exec (op' (r.behind pre name line)) s) :
    C.Course r₀ name op post deep neutral d pre line x s a j u :=
  h.of_gives (fun r b k v => by rw [Gives, Gives, hop]) (fun ts _ hpre hts => ⟨ts, hpre, hts⟩)
    fun _ => id

variable {C} in
/-- A course goes on where the one before it is done. -/
theorem Course.andThen {r₀ : Tail} {name : String} {m : (i : Input) → ReadM (Taken α i)}
    {k : α → (i : Input) → ReadM (Taken β i)} {mid : α → α → Prop} {post : β → β → Prop}
    {deep deep' : Place → Nat → Prop} {neutral neutral₁ neutral₂ : List Token → Prop} {d d' : Nat}
    {pre : List Token} {line : Int} {x : Scope.Kind} {s t u : ReadState} {a : α} {b : β}
    {j l : Input} (h : C.Course r₀ name m mid deep neutral₁ d pre line x s a l t)
    (hk : ∀ rest line', l = r₀.behind rest name line' → (∃ ts, pre = ts ++ rest ∧ neutral₁ ts) →
      C.Course r₀ name (k a) post deep' neutral₂ d' rest line' x t b j u)
    (hneutral : ∀ ts us, neutral₁ ts → neutral₂ us → neutral (ts ++ us))
    (hlevels : ∀ ts rest l, neutral₁ ts → Token.levels d' rest = some l →
      Token.levels d (ts ++ rest) = some l)
    (hdeep : ∀ P l, deep' P l → deep P l)
    (hfollows : ∀ a a', mid a a' → ∀ i i', C.inputs i i' →
      Follows (C.link x) (k a i) (k a' i') (C.Leaves post)) :
    C.Course r₀ name (CaseDict.andThen m k) post deep neutral d pre line x s b j u := by
  cases h with
  | @done ts rest line' hpre hts hj gives =>
    cases hk rest line' hj ⟨ts, hpre, hts⟩ with
    | @done us rest' line'' hpre' hus hj' gives' =>
      refine .done (by rw [hpre, hpre', List.append_assoc]) (hneutral ts us hts hus) hj'
        fun r i hi => ?_
      exact gives_andThen.mpr ⟨a, _, t, gives r i hi, gives' r _ rfl⟩
    | within h =>
      refine .within (h.lift (fun l hl => ?_) hdeep fun r r' i i' hi hi' hends => ?_)
      · rw [hpre]
        exact hlevels ts rest l hts hl
      have hop (r : Tail) (i : Input) (hi : i = r.behind pre name line) (b : β) (j : Input)
          (u : ReadState) : Gives (CaseDict.andThen m k i) s b j u ↔
            Gives (k a (r.behind rest name line')) t b j u := by
        rw [gives_andThen]
        obtain ⟨left, hx, hleft⟩ := gives r i hi
        constructor
        · rintro ⟨a', l, t', ⟨left', hx', rfl⟩, hrest⟩
          cases hx.symm.trans hx'
          rwa [hleft] at hrest
        · exact fun hrest => ⟨a, _, t, ⟨left, hx, hleft⟩, hrest⟩
      exact C.ends_congr (fun b j u => (hop r i hi b j u).mp) (fun b j u => (hop r' i' hi' b j u).mpr)
        (hends _ _ rfl rfl)
  | within h =>
    refine .within (h.lift (fun _ => id) (fun _ _ => id) fun r r' i i' hi hi' hends => ?_)
    refine (hends i i' hi hi').bind rfl ?_
    rintro ⟨a, rest⟩ ⟨a', rest'⟩ ⟨hresult, hrest⟩
    refine .bind (hfollows a a' hresult _ _ hrest) ?_
    rintro ⟨b, more⟩ ⟨b', more'⟩ ⟨hresult, hmore⟩
    exact .pure ⟨hresult, hmore⟩

/-! ### Values and arguments -/

/-- Inputs that begin alike and end with one of two tails. -/
def Ahead (name : String) (r r' : Tail) (i i' : Input) : Prop :=
  ∃ pre line, i = r.behind pre name line ∧ i' = r'.behind pre name line

/-- A directive of a conditional comes next. -/
theorem next_of_branches {r : Tail} (hr : r.Branches) (name : String) (line : Int) :
    ∃ t rest, (r.behind [] name line).next = .ok (some (t, rest)) ∧ t.isBranching = true := by
  obtain ⟨tokens, fault⟩ := r
  obtain ⟨t, more, rfl, ht⟩ := hr
  exact ⟨t, _, rfl, ht⟩

theorem tracks_ahead {r₀ : Tail} (hr₀ : r₀.Branches) (name : String) (r : Tail) :
    Input.Tracks True (Ahead name r₀ r) where
  name := by
    rintro _ _ ⟨pre, line, rfl, rfl⟩
    rfl
  next := by
    rintro _ _ ⟨pre, line, rfl, rfl⟩
    cases pre with
    | nil => exact .inl (next_of_branches hr₀ name line)
    | cons t pre =>
      exact .inr (.inr ⟨_, _, rfl, rfl, .some (.refl t) rfl ⟨pre, _, rfl, rfl⟩⟩)

/-- Something is expanded before the tail, whatever the tail is. -/
def Passes (r₀ : Tail) (name : String) (op : (i : Input) → ReadM (Taken α i)) (pre : List Token)
    (line : Int) (s : ReadState) (a : α) (j : Input) (u : ReadState) : Prop :=
  ∃ ts rest line', pre = ts ++ rest ∧ (∀ t ∈ ts, t.isBranching = false) ∧
    j = r₀.behind rest name line' ∧ (∃ log, u = { s with log }) ∧
    ∀ (r : Tail) i, i = r.behind pre name line → Gives (op i) s a (r.behind rest name line') u

variable {C} in
theorem Passes.course {r₀ : Tail} {name : String} {op : (i : Input) → ReadM (Taken α i)}
    {pre : List Token} {line : Int} {s u : ReadState} {a : α} {j : Input} {post : α → α → Prop}
    {deep : Place → Nat → Prop} {d : Nat} {x : Scope.Kind}
    (h : Passes r₀ name op pre line s a j u) :
    C.Course r₀ name op post deep Token.WellNested d pre line x s a j u := by
  obtain ⟨ts, rest, line', hpre, hts, hj, -, gives⟩ := h
  exact .done hpre (Token.levels_of_forall hts 0) hj gives

section Passing

variable {r₀ : Tail} (hr₀ : r₀.Branches) {name : String} {line : Int} {pre : List Token}
  {i₀ : Input} (hi₀ : i₀ = r₀.behind pre name line) {s u : ReadState} {j : Input}

include hr₀ hi₀

theorem passing {act : (i : Input) → Context → ExpandM (Taken α i)} {a : α}
    (hact : ∀ ρ, Input.Tracks True ρ → ∀ i i' frames, ρ i i' →
      Follows (.loosely Eq) (act i ⟨setup, frames⟩) (act i' ⟨setup, frames⟩) (Onward ρ Eq))
    (h : Gives (expanding setup (act i₀)) s a j u) :
    Passes r₀ name (fun i => expanding setup (act i)) pre line s a j u := by
  subst hi₀
  obtain ⟨left, hx, rfl⟩ := h
  rw [exec_expanding] at hx
  rcases hp : exec (act _ ⟨setup, s.scope.frames⟩) s.log with ⟨_ | p, log⟩
  · rw [hp] at hx
    cases hx
  rw [hp] at hx
  cases hx
  have hrun (r : Tail) (i : Input) (hi : i = r.behind pre name line) : ∃ rest line',
      left.input = r₀.behind rest name line' ∧ (r₀.behind pre name line).Passed left.input ∧
        Gives (act i ⟨setup, s.scope.frames⟩) s.log a (r.behind rest name line') log := by
    have hf := (hact _ (tracks_ahead hr₀ name r) _ i s.scope.frames ⟨pre, line, rfl, hi⟩).ends
      s.log s.log rfl
    unfold Gives
    rw [hp] at hf
    generalize exec (act i ⟨setup, s.scope.frames⟩) s.log = q at hf ⊢
    cases hf with
    | @ok _ b _ _ hab hl =>
      obtain ⟨b, left'⟩ := b
      obtain ⟨rfl, ⟨rest, line', hrest, hrest'⟩, hpassed⟩ := hab
      exact ⟨rest, line', hrest, hpassed, left', hl ▸ rfl, hrest'⟩
  obtain ⟨rest, line', hleft, ⟨ts, hts, hplain⟩, -⟩ := hrun r₀ _ rfl
  have hsplit : pre = ts ++ rest := by
    rw [hleft, Tail.behind, Tail.behind, ← List.append_assoc] at hts
    exact List.append_cancel_right hts
  refine ⟨ts, rest, line', hsplit, hplain, hleft, ⟨log, rfl⟩, fun r i hi => ?_⟩
  obtain ⟨rest', line'', hleft', -, left', hx, hl⟩ := hrun r i hi
  have hsame := hleft.symm.trans hleft'
  have hrest : rest' = rest := (List.append_cancel_right (Input.mk.inj hsame).2.1).symm
  have hline : line'' = line' := (Input.mk.inj hsame).2.2.2.symm
  subst hrest hline
  exact ⟨left', by rw [exec_expanding, hx], hl⟩

omit hr₀ hi₀ in
/-- References and directives in values, beside themselves. -/
theorem expansion_passing (hregistry : setup.registry = .standard) (frames : List (Frame Entry))
    (budget : Nat) :
    Tracking.References True Eq (reference ⟨setup, frames⟩ budget)
        (reference ⟨setup, frames⟩ budget) ∧
      ∀ ρ, Input.Tracks True ρ → Tracking.Inlines True Eq ρ (inline ⟨setup, frames⟩ budget)
        (inline ⟨setup, frames⟩ budget) :=
  Tracking.expansion_like (fun _ _ _ h => h ▸ rfl) (.refl _) hregistry budget

omit hr₀ hi₀ in
theorem eq_of_allLike {ts ts' : List Token} (h : Token.AllLike True ts ts') : ts = ts' := by
  refine List.forall₂_eq_eq_eq ▸ h.imp fun t t' ht => ?_
  obtain ⟨y, l⟩ := t
  obtain ⟨y', l'⟩ := t'
  obtain rfl : y' = y := ht.symbol
  obtain rfl : l = l' := ht.line trivial
  rfl

variable (hregistry : setup.registry = .standard)

include hregistry

theorem argument_passing (budget : Nat) {a : List Token}
    (h : Gives (expanding setup fun c => readArgument (reference c budget) (inline c budget) i₀)
      s a j u) :
    Passes r₀ name (fun i => expanding setup fun c => readArgument (reference c budget) (inline c budget) i)
      pre line s a j u := by
  refine passing hr₀ hi₀ (fun ρ hρ i i' frames hi => ?_) h
  obtain ⟨href, hin⟩ := expansion_passing hregistry frames budget
  exact (Tracking.readArgument_like hρ href (hin ρ hρ) hi).mono fun p q hpq =>
    hpq.mono fun _ _ => eq_of_allLike

theorem readTokens_passing (budget : Nat) {a : List Token × Int}
    (h : Gives (readTokens setup budget i₀) s a j u) :
    Passes r₀ name (fun i => readTokens setup budget i) pre line s a j u := by
  refine passing hr₀ hi₀ (fun ρ hρ i i' frames hi => ?_) h
  obtain ⟨href, hin⟩ := expansion_passing hregistry frames budget
  refine (Tracking.readValue_like hρ href (hin ρ hρ) rfl hi).mono fun p q hpq => hpq.mono ?_
  rintro ⟨ts, endLine⟩ ⟨ts', endLine'⟩ ⟨hts, hline⟩
  exact Prod.ext (eq_of_allLike hts) (hline trivial)

omit hregistry in
theorem locate_passing (optional : Bool) (t : Token) {a : Option Path}
    (h : Gives (expanding setup fun c => locate c optional t i₀) s a j u) :
    Passes r₀ name (fun i => expanding setup fun c => locate c optional t i) pre line s a j u :=
  passing hr₀ hi₀ (fun _ hρ _ _ _ hi =>
    Tracking.locate_like (fun _ _ _ h => h ▸ rfl) (.refl _) hρ optional t t hi) h

end Passing

/-! ### Dictionaries and blocks -/

theorem exec_inDictionary_ok {m : ReadM α} {s u : ReadState} {p : α × List Entry} :
    exec (inDictionary m) s = (.ok p, u) ↔ ∃ t,
      exec m { s with scope := s.scope.inner } = (.ok p.1, t) ∧ p.2 = t.scope.entries ∧
        u = { t with scope := s.scope } := by
  rw [exec_inDictionary]
  obtain ⟨a, es⟩ := p
  rcases exec m { s with scope := s.scope.inner } with ⟨_ | a', t⟩
  · simp [Except.map]
  · simp [Except.map, and_assoc, eq_comm]

theorem ends_inDictionary {m : ReadM α} {m' : ReadM β} {post : α → β → Prop} {x : Scope.Kind}
    {s : ReadState} (hs : C.holds x s) (h : (C.link .dictionary).Ends post
      (exec m { s with scope := s.scope.inner }) (exec m' { s with scope := s.scope.inner })) :
    (C.link x).Ends (fun p q => post p.1 q.1 ∧ C.contents p.2 q.2) (exec (inDictionary m) s)
      (exec (inDictionary m') s) := by
  rw [exec_inDictionary, exec_inDictionary]
  generalize exec m { s with scope := s.scope.inner } = p,
    exec m' { s with scope := s.scope.inner } = p' at h ⊢
  cases h with
  | ok hab ht =>
    obtain ⟨hrel, hes⟩ := C.leaveDictionary ht (C.refl hs)
    exact .ok ⟨hab, hes⟩ hrel
  | error => exact .error trivial
  | parted => exact .parted trivial (.of_none rfl)

theorem ends_inBlock {m : ReadM α} {m' : ReadM β} {post : α → β → Prop} {x : Scope.Kind}
    {s s' : ReadState} (h : (C.link (.block x)).Ends post
      (exec m { s with scope := .staged [] s.scope })
      (exec m' { s' with scope := .staged [] s'.scope })) :
    (C.link x).Ends (fun p q => post p.1 q.1 ∧ C.contents p.2 q.2) (exec (inBlock m) s)
      (exec (inBlock m') s') := by
  rw [Follows.exec_inBlock_eq, Follows.exec_inBlock_eq]
  generalize exec m { s with scope := .staged [] s.scope } = p,
    exec m' { s' with scope := .staged [] s'.scope } = p' at h ⊢
  cases h with
  | ok hab ht =>
    obtain ⟨hrel, hes⟩ := C.leaveBlock ht
    exact .ok ⟨hab, hes⟩ hrel
  | error => exact .error trivial
  | parted => exact .parted trivial (.of_none rfl)

theorem follows_inBlock {m : ReadM α} {m' : ReadM β} {post : α → β → Prop} {x : Scope.Kind}
    (h : Follows (C.link (.block x)) m m' post) :
    Follows (C.link x) (inBlock m) (inBlock m')
      fun p q => post p.1 q.1 ∧ C.contents p.2 q.2 where
  ends s s' hs := C.ends_inBlock (h.ends _ _ (C.enter hs))
  stays _ ha := by contradiction

/-! ### Entries -/

variable (r₀ : Tail) (name : String)

/-- Statements are read to their end before the tail, or the read comes to a place before it. -/
def EntriesCourse (budget size : Nat) : Prop :=
  ∀ pre : List Token, pre.length < size → ∀ n (closing : Option Heading) stops line x s d i₀ a j u,
    stops ⊆ branchEnds → C.holds x s → i₀ = r₀.behind pre name line →
    Gives (Watched.readEntries watch setup budget (Watched.runDirective watch setup budget) n closing
      stops i₀) s a j u →
    C.Course r₀ name
      (fun i => readEntries setup budget (runDirective setup budget) n closing stops i)
      (Option.Rel C.tokens) (fun P d' => P.IsEndless ∨ d < d' ∨ stops ≠ [] ∧ d ≤ d')
      (fun ts => C.holds x u ∧ ∃ us t, a = some t ∧ ts = us ++ [t] ∧ Token.WellNested us ∧
        (t.symbol = .closer .brace ∧ closing.isSome = true ∨ t.symbol.isDirectiveIn stops = true))
      d pre line x s a j u

variable {r₀ name}

section Entries

variable (hr₀ : r₀.Branches) (hregistry : setup.registry = .standard) {budget n : Nat}
  {pre : List Token} {line : Int} {s u : ReadState} {j i₀ : Input} {x : Scope.Kind} {d : Nat}

include hr₀ hregistry

theorem primitive_passes {h : Heading} {e : Entry} (hi₀ : i₀ = r₀.behind pre name line)
    (hg : Gives (readEntry.readPrimitive setup budget h i₀) s e j u) :
    Passes r₀ name (fun i => readEntry.readPrimitive setup budget h i) pre line s e j u := by
  obtain ⟨left, hx, rfl⟩ := hg
  replace hx := exec_bind_ok.mp hx
  obtain ⟨⟨⟨ts, endLine⟩, rest⟩, t, hread, hx⟩ := hx
  obtain ⟨us, rest', line', hpre, hus, hrest, hlog, hgives⟩ :=
    readTokens_passing hr₀ hi₀ hregistry budget ⟨rest, hread, rfl⟩
  replace hx := exec_bind_ok.mp hx
  obtain ⟨k, t', hk, hx⟩ := hx
  cases hx
  obtain ⟨-, rfl⟩ := exec_lift_ok.mp hk
  refine ⟨us, rest', line', hpre, hus, hrest, hlog, fun r i hi => ?_⟩
  obtain ⟨left, hx, hleft⟩ := hgives r i hi
  refine ⟨left, ?_, hleft⟩
  exact exec_bind_ok.mpr ⟨_, _, hx, exec_bind_ok.mpr ⟨_, _, hk, rfl⟩⟩

theorem not_primitive {h : Heading} {e : Entry} (hi₀ : i₀ = r₀.behind [] name line) :
    ¬Gives (readEntry.readPrimitive setup budget h i₀) s e j u := by
  intro hg
  obtain ⟨left, hx, rfl⟩ := hg
  replace hx := exec_bind_ok.mp hx
  obtain ⟨⟨⟨ts, endLine⟩, rest⟩, t, hread, hx⟩ := hx
  obtain ⟨us, rest', line', hpre, hus, hrest, -, hgives⟩ :=
    readTokens_passing hr₀ hi₀ hregistry budget ⟨rest, hread, rfl⟩
  obtain ⟨left', hx', -⟩ := hgives ⟨[], some .numeralTooLong⟩ _ rfl
  dsimp only at hx'
  rw [Statement.readTokens, exec_expanding, readValue.eq_def] at hx'
  cases hx'

omit hregistry in
theorem copyDictionary_passes {h target : Heading} {t : Token} {es : List Entry} {ref : String}
    {e : Entry} (hi₀ : i₀ = r₀.behind pre name line)
    (hg : Gives (copyDictionary h ref t target es i₀) s e j u) :
    Passes r₀ name (fun i => copyDictionary h ref t target es i) pre line s e j u := by
  obtain ⟨left, hx, rfl⟩ := hg
  subst hi₀
  cases pre with
  | nil =>
    obtain ⟨⟨y, l⟩, rest, hnext, ht'⟩ := next_of_branches hr₀ name line
    rw [Statement.copyDictionary, exec_bind, exec_lift, hnext] at hx
    cases y with
    | directive => cases hx
    | _ => contradiction
  | cons t' pre =>
    obtain ⟨y, l⟩ := t'
    obtain ⟨rest, hnext, hrest⟩ := r₀.next_behind ⟨y, l⟩ pre name line
    rw [Statement.copyDictionary, exec_bind, exec_lift, hnext] at hx
    cases y with
    | terminator =>
      replace hx := exec_bind_ok.mp hx
      obtain ⟨p, t, hp, hx⟩ := hx
      cases hp
      replace hx := exec_bind_ok.mp hx
      obtain ⟨copy, t', hcopy, hx⟩ := hx
      cases hx
      obtain ⟨-, rfl⟩ := exec_lift_ok.mp hcopy
      refine ⟨[⟨.terminator, l⟩], pre, _, rfl, List.forall_mem_singleton.mpr rfl, hrest,
        ⟨_, rfl⟩, fun r i hi => ?_⟩
      subst hi
      obtain ⟨rest, hnext, hrest⟩ := r.next_behind ⟨.terminator, l⟩ pre name line
      refine ⟨rest.toRest, ?_, hrest⟩
      dsimp only
      rw [Statement.copyDictionary, exec_bind, exec_lift, hnext]
      exact exec_bind_ok.mpr ⟨_, _, rfl, exec_bind_ok.mpr ⟨_, _, hcopy, rfl⟩⟩
    | _ => cases hx

/-- The entry is being read. -/
abbrev EntryCourse (C : Comparison watch setup) (r₀ : Tail) (name : String) (budget n : Nat)
    (h : Heading) (d : Nat) (pre : List Token) (line : Int) (x : Scope.Kind) (s : ReadState)
    (e : Entry) (j : Input) (u : ReadState) : Prop :=
  C.Course r₀ name (fun i => readEntry setup budget (runDirective setup budget) n h i) C.entry
    (fun P d' => P.IsEndless ∨ d < d') Token.WellNested d pre line x s e j u

omit hr₀ hregistry in
theorem dictionary_course {h : Heading} {e : Entry} {l : Int} (hs : C.holds x s)
    (hentries : C.EntriesCourse r₀ name budget (pre.length + 1))
    (hi₀ : i₀ = r₀.behind (⟨.opener .brace, l⟩ :: pre) name line)
    (hg : Gives (Watched.readEntry watch setup budget (Watched.runDirective watch setup budget) n h
      i₀) s e j u) :
    C.EntryCourse r₀ name budget n h d (⟨.opener .brace, l⟩ :: pre) line x s e j u := by
  obtain ⟨left, hx, rfl⟩ := hg
  subst hi₀
  obtain ⟨rest, hnext, hrest⟩ := r₀.next_behind ⟨.opener .brace, l⟩ pre name line
  rw [Watched.readEntry.eq_def, exec_bind, exec_lift, hnext] at hx
  dsimp only at hx
  split at hx
  · cases hx
  next hnesting =>
  replace hx := exec_bind_ok.mp hx
  obtain ⟨k, t, hk, hx⟩ := hx
  obtain ⟨hk, rfl⟩ := exec_lift_ok.mp hk
  replace hx := exec_bind_ok.mp hx
  obtain ⟨⟨⟨ending, more⟩, es⟩, t', hinside, hx⟩ := hx
  cases hx
  obtain ⟨v, hx, rfl, rfl⟩ := exec_inDictionary_ok.mp hinside
  -- What is left of the entry is read the same way before every tail.
  have hop (r : Tail) (i : Input) (hi : i = r.behind (⟨.opener .brace, l⟩ :: pre) name line) :
      ∃ rest : i.Less, rest.input = r.behind pre name (Token.lineAfter line [⟨.opener .brace, l⟩]) ∧
        exec (readEntry setup budget (runDirective setup budget) n h i) t =
          exec (do
            let p ← inDictionary (readEntries setup budget (runDirective setup budget) (n + 1)
              (some k) [] rest.input)
            return (.dictionary { k with endLine := (p.1.1.map (·.line)).getD (-1) } p.2,
              (rest.onward p.1.2).toRest)) t := by
    subst hi
    obtain ⟨rest, hnext, hrest⟩ := r.next_behind ⟨.opener .brace, l⟩ pre name line
    refine ⟨rest, hrest, ?_⟩
    rw [readEntry.eq_def, exec_bind, exec_lift, hnext]
    dsimp only
    rw [if_neg hnesting, exec_bind, hk]
  have hbrace : Token.isBranching ⟨.opener .brace, l⟩ = false := rfl
  cases hentries pre (Nat.lt_succ_self _) (n + 1) (some k) [] _ .dictionary _ d _ _ _ _
    (List.nil_subset _) (C.inner hs) hrest ⟨more, hx, rfl⟩ with
  | done hpre hts hj gives =>
    obtain ⟨-, us, t', -, rfl, hus, ⟨ht', -⟩ | ht'⟩ := hts
    · refine .done (show _ = ⟨.opener .brace, l⟩ :: (us ++ [t']) ++ _ by rw [hpre]; rfl) ?_ hj
        fun r i hi => ?_
      · refine (Token.wellNested_cons hbrace).mpr (hus.append ((Token.wellNested_cons ?_).mpr rfl))
        rw [Token.isBranching, ht']
        rfl
      · obtain ⟨rest, hrest, hx⟩ := hop r i hi
        obtain ⟨more, hloop, hmore⟩ := gives r rest.input hrest
        refine ⟨(rest.onward more).toRest, ?_, hmore⟩
        rw [hx]
        exact exec_bind_ok.mpr ⟨((ending, more), _), _,
          exec_inDictionary_ok.mpr ⟨v, hloop, rfl, rfl⟩, rfl⟩
    · obtain ⟨y, l'⟩ := t'
      cases y <;> contradiction
  | within h =>
    refine .within (h.lift (fun l hl => ?_) (fun P l hdeep => ?_) fun r r' i i' hi hi' hends => ?_)
    · rwa [Token.levels_cons_of_not_branching hbrace]
    · exact hdeep.imp_right (Or.resolve_right · fun h => h.1 rfl)
    · obtain ⟨rest, hrest, hx⟩ := hop r i hi
      obtain ⟨rest', hrest', hx'⟩ := hop r' i' hi'
      rw [hx, hx']
      refine (C.ends_inDictionary hs (hends _ _ hrest hrest')).bind rfl ?_
      rintro ⟨⟨ending, more⟩, es⟩ ⟨⟨ending', more'⟩, es'⟩ ⟨⟨hending, hmore⟩, hes⟩
      exact .pure ⟨C.closes k hending hes, hmore⟩

/-- The next token is a reference to a dictionary, or begins a value. -/
theorem valued_course {h : Heading} {e : Entry} {t : Token} (ht : t.symbol ≠ .opener .brace)
    (hi₀ : i₀ = r₀.behind (t :: pre) name line)
    (hg : Gives (Watched.readEntry watch setup budget (Watched.runDirective watch setup budget) n h
      i₀) s e j u) : C.EntryCourse r₀ name budget n h d (t :: pre) line x s e j u := by
  obtain ⟨left, hx, rfl⟩ := hg
  subst hi₀
  have hprimitive (hx : exec (readEntry.readPrimitive setup budget h
        (r₀.behind (t :: pre) name line)) s = (.ok (e, left), u))
      (hop : ∀ (i : Input) (rest : i.Less), i.next = .ok (some (t, rest)) →
        exec (readEntry setup budget (runDirective setup budget) n h i) s =
          exec (readEntry.readPrimitive setup budget h i) s) :
      C.EntryCourse r₀ name budget n h d (t :: pre) line x s e left.input u := by
    refine (primitive_passes hr₀ hregistry rfl ⟨left, hx, rfl⟩).course.congr fun r => ?_
    obtain ⟨rest, hnext, -⟩ := r.next_behind t pre name line
    exact hop _ rest hnext
  obtain ⟨y, l⟩ := t
  obtain ⟨rest, hnext, hrest⟩ := r₀.next_behind ⟨y, l⟩ pre name line
  rw [Watched.readEntry.eq_def, exec_bind, exec_lift, hnext] at hx
  cases y with
  | opener b =>
    cases b with
    | brace => exact absurd rfl ht
    | round | square =>
      refine hprimitive hx fun i rest hnext => ?_
      rw [readEntry.eq_def, exec_bind, exec_lift, hnext]
  | reference ref =>
    have hrun : exec (surroundings setup) s = (.ok (s.surroundings setup), s) := rfl
    dsimp only at hx
    rw [exec_bind, hrun] at hx
    dsimp only at hx
    split at hx
    · next target es hfind =>
      replace hx := exec_bind_ok.mp hx
      obtain ⟨⟨copy, more⟩, t, hcopy, hx⟩ := hx
      cases hx
      obtain ⟨ts, rest', line', hpre, hts, hj, -, gives⟩ :=
        copyDictionary_passes hr₀ hrest ⟨more, hcopy, rfl⟩
      refine .done (show _ = ⟨.reference ref, l⟩ :: ts ++ _ by rw [hpre]; rfl) ?_ hj fun r i hi => ?_
      · exact (Token.wellNested_cons rfl).mpr (Token.levels_of_forall hts 0)
      · subst hi
        obtain ⟨rest, hnext, hrest⟩ := r.next_behind ⟨.reference ref, l⟩ pre name line
        obtain ⟨more, hx, hmore⟩ := gives r rest.input hrest
        refine ⟨(rest.onward more).toRest, ?_, hmore⟩
        rw [readEntry.eq_def, exec_bind, exec_lift, hnext]
        dsimp only
        rw [exec_bind, hrun]
        dsimp only
        rw [hfind]
        exact exec_bind_ok.mpr ⟨_, _, hx, rfl⟩
    · next hfind =>
      refine hprimitive hx fun i rest hnext => ?_
      rw [readEntry.eq_def, exec_bind, exec_lift, hnext]
      dsimp only
      rw [exec_bind, hrun]
      dsimp only
      split
      · next hfind' => exact absurd hfind' (hfind _ _)
      · rfl
  | _ =>
    refine hprimitive hx fun i rest hnext => ?_
    rw [readEntry.eq_def, exec_bind, exec_lift, hnext]

theorem readEntry_course {h : Heading} {e : Entry} (hs : C.holds x s)
    (hentries : C.EntriesCourse r₀ name budget pre.length) (hi₀ : i₀ = r₀.behind pre name line)
    (hg : Gives (Watched.readEntry watch setup budget (Watched.runDirective watch setup budget) n h
      i₀) s e j u) : C.EntryCourse r₀ name budget n h d pre line x s e j u := by
  cases pre with
  | nil =>
    obtain ⟨left, hx, rfl⟩ := hg
    subst hi₀
    obtain ⟨⟨y, l⟩, rest, hnext, ht⟩ := next_of_branches hr₀ name line
    rw [Watched.readEntry.eq_def, exec_bind, exec_lift, hnext] at hx
    cases y with
    | directive => exact absurd ⟨left, hx, rfl⟩ (not_primitive hr₀ hregistry rfl)
    | _ => contradiction
  | cons t pre =>
    by_cases ht : t.symbol = .opener .brace
    · obtain ⟨y, l⟩ := t
      subst ht
      exact C.dictionary_course hs hentries hi₀ hg
    · exact C.valued_course hr₀ hregistry ht hi₀ hg

end Entries

end Comparison

end CaseDict
