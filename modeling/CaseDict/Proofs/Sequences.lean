import CaseDict.Proofs.Failures
import CaseDict.Proofs.Follows
import CaseDict.Proofs.Soundness
/-! # Two expansions side by side

Two expansions of one sequence of tokens follow each other if what they put for each reference and
each directive does. At the same time the tokens they give are known: a `Vocabulary` says which
tokens are read, which may stand in a value, and which lists a reference or directive stands for. -/

namespace CaseDict

open Expansion Grammar

/-- The names of the references in a text. -/
def Template.names (text : String) : List String :=
  (pieces text.toList).filterMap fun
    | .reference name => some name
    | .literal _ => none

/-- The names that are looked up when a token is expanded, and those that are when the texts in it
are. -/
def Symbol.names : Symbol → List String
  | .reference name => [name]
  | .quoted s | .word s => Template.names s
  | .number n => Template.names n.text
  | _ => []

/-- What is known of tokens, and of the failures that both expansions may end with. -/
structure Vocabulary where
  /-- A token that is read. -/
  plain : Token → Prop
  /-- A token that stands in a value. -/
  fit : Token → Prop
  /-- What a reference or directive stands for, and what an entry holds. -/
  stands : List Token → Prop
  /-- A failure of both. Only of those that tell a redefinition this may be false. -/
  fails : Failure → Prop
  /-- A pattern may stand as a keyword. -/
  patterns : Prop := True
  /-- A name may be looked up. -/
  names : String → Prop := fun _ => True
  names_of_plain {t : Token} {name : String} (h : plain t) (hn : name ∈ t.symbol.names) :
    names name := by exact fun _ _ => trivial
  fails_of {f : Failure} (h : f.isDuplicate = false) : fails f
  fit_of_plain {t : Token} (h : plain t) (hm : t.symbol.isMacro = false) : fit t
  fit_of_stands {ts : List Token} (h : stands ts) : ∀ t ∈ ts, fit t
  /-- The value of an entry holds fit tokens, and its brackets nest if they do in all it is made
  of. -/
  stands_of_value {ts : List Token} (h : ∀ t ∈ ts, fit t)
    (hn : (∀ us, stands us → Nested false us) → Nested false ts) : stands ts
  /-- What a computation gives. -/
  stands_number {x : Number} {line : Int} (h : x.writable = true) : stands [⟨.number x, line⟩]
  stands_switch {w : String} {line : Int} (h : w = "true" ∨ w = "false") : stands [⟨.word w, line⟩]
  stands_negate {x : Number} {line line' : Int} (h : fit ⟨.number x, line⟩) :
    stands [⟨.number x.negate, line'⟩]

namespace Vocabulary

/-- All lists of fit tokens can stand for a reference or directive. -/
def Whole (V : Vocabulary) : Prop := ∀ ts, (∀ t ∈ ts, V.fit t) → V.stands ts

/-- Both runs may end with the failures. -/
def Shared {σ : Type} (V : Vocabulary) (L : Link σ) : Prop := ∀ f, V.fails f → L.shares f

/-- The tokens of the input and its fault are known. -/
structure Knows (V : Vocabulary) (i : Input) : Prop where
  tokens : ∀ t ∈ i.tokens, V.plain t
  fault : ∀ f ∈ i.fault, V.fails f

end Vocabulary

/-- Both results satisfy `post`, and the same input is left, which is known. -/
structure Leaves {i : Input} {α β : Type} (V : Vocabulary) (post : α → β → Prop) (p : Taken α i)
    (q : Taken β i) : Prop where
  result : post p.1 q.1
  rest : p.2 = q.2
  known : V.Knows p.2.input

variable {σ : Type} {L : Link σ} {V : Vocabulary} {i : Input}

theorem Leaves.mono {α β : Type} {post post' : α → β → Prop} {p : Taken α i} {q : Taken β i}
    (h : Leaves V post p q) (hp : ∀ a b, post a b → post' a b) : Leaves V post' p q :=
  ⟨hp _ _ h.result, h.rest, h.known⟩

namespace Vocabulary.Knows

theorem next (hi : V.Knows i) {t : Token} {rest : i.Less} (h : i.next = .ok (some (t, rest))) :
    V.plain t ∧ V.Knows rest.input := by
  obtain ⟨name, ts, fault, line⟩ := i
  cases ts with
  | nil => cases fault <;> cases h
  | cons u us =>
    cases h
    obtain ⟨ht, hus⟩ := List.forall_mem_cons.mp hi.tokens
    exact ⟨ht, hus, hi.fault⟩

theorem next_error (hi : V.Knows i) {f : Failure} (h : i.next = .error f) : V.fails f := by
  obtain ⟨name, ts, fault, line⟩ := i
  cases ts with
  | cons => cases h
  | nil =>
    cases fault with
    | none => cases h
    | some f' =>
      cases h
      exact hi.fault _ rfl

theorem next_meets (hi : V.Knows i) (hL : V.Shared L) : L.Meets
    (Same fun found => ∀ t rest, found = some (t, rest) → V.plain t ∧ V.Knows rest.input)
    i.next i.next :=
  .refl (fun _ ha => ⟨rfl, fun _ _ hf => hi.next (hf ▸ ha)⟩) fun f hf => hL f (hi.next_error hf)

theorem expect_meets (hi : V.Knows i) (hL : V.Shared L) (what : String) :
    L.Meets (Same fun p => V.plain p.1 ∧ V.Knows p.2.input) (i.expect what) (i.expect what) := by
  refine .bind (hi.next_meets hL) ?_
  rintro found _ ⟨rfl, hfound⟩
  cases found with
  | none => exact .error (hL _ (V.fails_of rfl))
  | some p => exact .ok ⟨rfl, hfound _ _ rfl⟩

end Vocabulary.Knows

namespace Follows

section Shared

variable (hL : V.Shared L)

include hL

theorem throws {α β : Type} {post : α → β → Prop} {f : Failure} (hf : f.isDuplicate = false) :
    Follows L (MonadExcept.throw f) (MonadExcept.throw f) post := .throw (hL f (V.fails_of hf))

theorem throws_bind {α β γ δ : Type} {k : α → ExceptT Failure (StateM σ) γ}
    {k' : β → ExceptT Failure (StateM σ) δ} {post : γ → δ → Prop} {f : Failure}
    (hf : f.isDuplicate = false) :
    Follows L (MonadExcept.throw f >>= k) (MonadExcept.throw f >>= k') post :=
  .throw_bind (hL f (V.fails_of hf))

theorem next (hi : V.Knows i) : Follows L (liftM i.next) (liftM i.next)
    (Same fun found => ∀ t rest, found = some (t, rest) → V.plain t ∧ V.Knows rest.input) :=
  .lift (hi.next_meets hL)

theorem expect (hi : V.Knows i) (what : String) :
    Follows L (liftM (i.expect what)) (liftM (i.expect what))
      (Same fun p => V.plain p.1 ∧ V.Knows p.2.input) := .lift (hi.expect_meets hL what)

end Shared

section Sequences

variable {L : Link (List Event)} {V : Vocabulary}
  {reference reference' : Token → String → ExpandM (List Token)}
  {inline inline' : Token → (i : Input) → ExpandM (Taken (List Token) i)}

/-- The two ways to expand directives follow each other. -/
def Inlining (L : Link (List Event)) (V : Vocabulary)
    (inline inline' : Token → (i : Input) → ExpandM (Taken (List Token) i)) : Prop :=
  ∀ t i name, t.symbol = .directive name → V.plain t → V.Knows i →
    Follows L (inline t i) (inline' t i) (Leaves V (Same V.stands))

/-- The two ways to expand references follow each other. -/
def Referring (L : Link (List Event)) (V : Vocabulary)
    (reference reference' : Token → String → ExpandM (List Token)) : Prop :=
  ∀ t source name, t.symbol = .reference name → V.plain t →
    Follows L (reference t source) (reference' t source) (Same V.stands)

variable (href : Referring L V reference reference')
  (hin : Inlining L V inline inline')

include href hin

theorem expandToken {t : Token} (ht : V.plain t) (hi : V.Knows i) :
    Follows L (expandToken reference inline t i) (expandToken reference' inline' t i)
      (Leaves V (Same fun ts => if t.symbol.isMacro then V.stands ts else ts = [t])) := by
  unfold Expansion.expandToken
  split
  · next name hs =>
    refine .bind_same (href t i.name name hs ht) fun ts hts => .pure ⟨⟨rfl, ?_⟩, rfl, hi⟩
    rwa [hs]
  · next name hs =>
    have h := hin t i name hs ht hi
    rw [hs]
    exact h
  · next hr hd =>
    have hm : t.symbol.isMacro = false := by
      unfold Symbol.isMacro
      split
      · next hs => exact absurd hs (hr _)
      · next hs => exact absurd hs (hd _)
      · rfl
    exact .pure ⟨⟨rfl, by simp [hm]⟩, rfl, hi⟩

/-- What a token expands to is fit in any case. -/
theorem expandToken_fit {t : Token} (ht : V.plain t) (hi : V.Knows i) :
    Follows L (Expansion.expandToken reference inline t i)
      (Expansion.expandToken reference' inline' t i)
      (Leaves V (Same fun ts => ∀ u ∈ ts, V.fit u)) := by
  refine (expandToken href hin ht hi).mono fun p q h => h.mono fun ts us ⟨he, hts⟩ => ⟨he, ?_⟩
  split at hts
  · exact V.fit_of_stands hts
  · next hm =>
    rw [hts]
    exact List.forall_mem_singleton.mpr (V.fit_of_plain ht (by simpa using hm))

variable (hL : V.Shared L)

include hL

theorem expandAll (hi : V.Knows i) :
    Follows L (expandAll reference inline i) (expandAll reference' inline' i)
      (Same fun ts => ∀ u ∈ ts, V.fit u) := by
  induction hn : i.size using Nat.strongRecOn generalizing i with
  | ind n ih =>
    rw [expandAll.eq_def, expandAll.eq_def reference']
    refine .bind_same (.next hL hi) fun found hfound => ?_
    split
    · exact .pure ⟨rfl, List.forall_mem_nil _⟩
    · next t rest =>
      obtain ⟨ht, hrest⟩ := hfound t rest rfl
      refine .bind (expandToken_fit href hin ht hrest) ?_
      rintro ⟨ts, more⟩ ⟨_, _⟩ ⟨⟨rfl, hts⟩, rfl, hmore⟩
      have hlt : more.input.size < n := hn ▸ Nat.lt_of_le_of_lt more.le rest.lt
      exact .bind_same (ih _ hlt hmore rfl) fun us hus =>
        .pure ⟨rfl, List.forall_mem_append.mpr ⟨hts, hus⟩⟩

theorem readGroup (o : Opening) (outer : List Opening) (hi : V.Knows i) :
    Follows L (readGroup reference inline o outer i) (readGroup reference' inline' o outer i)
      (Leaves V (Same fun ts => ∀ u ∈ ts, V.fit u)) := by
  induction hn : i.size using Nat.strongRecOn generalizing i o outer with
  | ind n ih =>
    rw [readGroup.eq_def, readGroup.eq_def reference']
    refine .bind_same (.expect hL hi _) fun ⟨t, rest⟩ ⟨ht, hrest⟩ => ?_
    refine .bind_same (.lift_any fun f hf => ?_) fun opened _ => ?_
    · exact hL f (V.fails_of (isDuplicate_of_track hf))
    refine .bind (expandToken_fit href hin ht hrest) ?_
    rintro ⟨ts, more⟩ ⟨_, _⟩ ⟨⟨rfl, hts⟩, rfl, hmore⟩
    dsimp only
    split
    · exact .pure ⟨⟨rfl, hts⟩, rfl, hmore⟩
    · next o outer =>
      have hlt : more.input.size < n := hn ▸ Nat.lt_of_le_of_lt more.le rest.lt
      refine .bind (ih _ hlt o outer hmore rfl) ?_
      rintro ⟨us, last⟩ ⟨_, _⟩ ⟨⟨rfl, hus⟩, rfl, hlast⟩
      exact .pure ⟨⟨rfl, List.forall_mem_append.mpr ⟨hts, hus⟩⟩, rfl, hlast⟩

theorem readArgument (hi : V.Knows i) :
    Follows L (readArgument reference inline i) (readArgument reference' inline' i)
      (Leaves V (Same fun ts => ∀ u ∈ ts, V.fit u)) := by
  unfold Expansion.readArgument
  refine .bind_same (.expect hL hi _) fun ⟨t, rest⟩ ⟨ht, hrest⟩ => ?_
  dsimp only
  split
  · exact .throws hL rfl
  · exact .throws hL rfl
  · next hs =>
    refine .bind (readGroup href hin hL _ _ hrest) ?_
    rintro ⟨ts, more⟩ ⟨_, _⟩ ⟨⟨rfl, hts⟩, rfl, hmore⟩
    have hfit : V.fit t := V.fit_of_plain ht (by rw [hs]; rfl)
    exact .pure ⟨⟨rfl, List.forall_mem_cons.mpr ⟨hfit, hts⟩⟩, rfl, hmore⟩
  · refine .bind (expandToken_fit href hin ht hrest) ?_
    rintro ⟨ts, more⟩ ⟨_, _⟩ ⟨hts, rfl, hmore⟩
    exact .pure ⟨hts, rfl, hmore⟩

/-- The tokens of a value close the brackets that are open, if brackets nest in all that references
and directives stand for. -/
theorem readValue (opened : List Opening) (hi : V.Knows i) :
    Follows L (readValue reference inline opened i) (readValue reference' inline' opened i)
      (Leaves V (Same fun p => (∀ u ∈ p.1, V.fit u) ∧
        ((∀ us, V.stands us → Nested false us) → Closes opened p.1))) := by
  induction hn : i.size using Nat.strongRecOn generalizing i opened with
  | ind n ih =>
    rw [readValue.eq_def, readValue.eq_def reference']
    refine .bind_same (.next hL hi) fun found hfound => ?_
    split
    · split
      · exact .pure ⟨⟨rfl, List.forall_mem_nil _, fun _ => .nil⟩, rfl, hi⟩
      · exact .throws hL rfl
    · next t rest =>
      obtain ⟨ht, hrest⟩ := hfound t rest rfl
      split
      · next hend =>
        obtain rfl := List.isEmpty_iff.mp hend.2
        exact .pure ⟨⟨rfl, List.forall_mem_nil _, fun _ => .nil⟩, rfl, hrest⟩
      · next hend =>
        refine .bind_same (.lift_same fun f hf => ?_) fun opened' htrack => ?_
        · exact hL f (V.fails_of (isDuplicate_of_track hf))
        refine .bind (expandToken href hin ht hrest) ?_
        rintro ⟨ts, more⟩ ⟨_, _⟩ ⟨⟨rfl, hts⟩, rfl, hmore⟩
        have hlt : more.input.size < n := hn ▸ Nat.lt_of_le_of_lt more.le rest.lt
        refine .bind (ih _ hlt opened' hmore rfl) ?_
        rintro ⟨⟨us, endLine⟩, last⟩ ⟨⟨_, _⟩, _⟩ ⟨⟨⟨rfl, rfl⟩, hus, hc⟩, rfl, hlast⟩
        refine .pure ⟨⟨rfl, ?_⟩, rfl, hlast⟩
        dsimp only at hts
        split at hts
        · have hsame : opened' = opened := by
            unfold track at htrack
            split at htrack <;> simp_all [Symbol.isMacro]
          subst hsame
          exact ⟨List.forall_mem_append.mpr ⟨V.fit_of_stands hts, hus⟩,
            fun hv => (hc hv).nested (hv ts hts)⟩
        · next hm =>
          subst hts
          have hm : t.symbol.isMacro = false := by simpa using hm
          exact ⟨List.forall_mem_cons.mpr ⟨V.fit_of_plain ht hm, hus⟩,
            fun hv => (hc hv).track htrack hm (by simpa using hend)⟩

end Sequences

end Follows

end CaseDict
