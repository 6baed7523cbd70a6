import CaseDict.Expansion
import CaseDict.Proofs.Follows
/-! # Input that is followed by more

What is read from an input is read from it in the same way if a terminator and more follow it: what
is left then is followed by the same (`Within`). Only a value may end with the input, and then it
takes the terminator (`Beyond`). -/

namespace CaseDict

open Expansion

/-- A terminator, and what follows it in a text. -/
structure Sequel where
  line : Int
  tokens : List Token
  fault : Option Failure := none

namespace Input

/-- The input with a terminator and more behind it. -/
def followedBy (i : Input) (x : Sequel) : Input :=
  { i with tokens := i.tokens ++ ⟨.terminator, x.line⟩ :: x.tokens, fault := x.fault }

/-- The input is from the same text. -/
structure SameText (i j : Input) : Prop where
  name : j.name = i.name
  fault : j.fault = i.fault

theorem SameText.refl (i : Input) : i.SameText i := ⟨rfl, rfl⟩

theorem SameText.trans {i j k : Input} (h : i.SameText j) (h' : j.SameText k) : i.SameText k :=
  ⟨h'.name.trans h.name, h'.fault.trans h.fault⟩

/-- The input is what comes behind the terminator. -/
structure Starts (i : Input) (x : Sequel) (name : String) : Prop where
  name : i.name = name
  tokens : i.tokens = x.tokens
  fault : i.fault = x.fault

end Input

variable {x : Sequel} {i i' : Input} {α : Type}

/-- The results are the same, and what is left is followed by the sequel. -/
structure Within (x : Sequel) (p : Taken α i) (q : Taken α i') : Prop where
  result : p.1 = q.1
  text : i.SameText p.2.input
  rest : q.2.input = p.2.input.followedBy x

/-- Either the results are the same, and what is left is followed by the sequel, or all has been
read, and the second computation has taken the terminator. -/
inductive Beyond (x : Sequel) (post : α → α → Prop) (p : Taken α i) (q : Taken α i') : Prop
  | within (h : Within x p q)
  | atEnd (h : post p.1 q.1) (hfault : i.fault = none) (htokens : p.2.input.tokens = [])
    (hrest : q.2.input.Starts x i.name)

/-- The next tokens: the same, or the terminator where the input ends. -/
inductive Found (x : Sequel) : Option (Token × i.Less) → Option (Token × i'.Less) → Prop
  | some {t : Token} {rest : i.Less} {rest' : i'.Less} (text : i.SameText rest.input)
      (h : rest'.input = rest.input.followedBy x) : Found x (some (t, rest)) (some (t, rest'))
  | none {rest' : i'.Less} (htokens : i.tokens = []) (hfault : i.fault = none)
      (h : rest'.input.Starts x i.name) : Found x none (some (⟨.terminator, x.line⟩, rest'))

/-- Two runs in the same state, until the first one fails. -/
abbrev Link.leading {σ : Type} : Link σ := .upTo fun _ => True

theorem Input.next_meets {σ : Type} (hi : i' = i.followedBy x) :
    (Link.leading : Link σ).Meets (Found x) i.next i'.next := by
  subst hi
  obtain ⟨name, ts, fault, line⟩ := i
  cases ts with
  | nil =>
    cases fault with
    | some f => exact .parted trivial rfl
    | none => exact .ok (.none rfl rfl ⟨rfl, rfl, rfl⟩)
  | cons t ts => exact .ok (.some ⟨rfl, rfl⟩ rfl)

namespace Follows

variable {σ β : Type} {m : ExceptT Failure (StateM σ) α}

/-- Both runs begin in the same way. -/
theorem bind_again {γ δ : Type} {k : α → ExceptT Failure (StateM σ) γ}
    {k' : α → ExceptT Failure (StateM σ) δ} {post : γ → δ → Prop}
    (hk : ∀ a, Follows .leading (k a) (k' a) post) :
    Follows .leading (m >>= k) (m >>= k') post where
  ends s s' hs := by
    obtain rfl := hs
    rw [exec_bind, exec_bind]
    rcases exec m s with ⟨_ | a, t⟩
    · exact .error trivial
    · exact (hk a).ends t t rfl
  stays _ ha := by contradiction

theorem fails {f : Failure} {m' : ExceptT Failure (StateM σ) β} {post : α → β → Prop} :
    Follows .leading (MonadExcept.throw f) m' post := .left trivial rfl

theorem fails_bind {γ : Type} {f : Failure} {k : γ → ExceptT Failure (StateM σ) α}
    {m' : ExceptT Failure (StateM σ) β} {post : α → β → Prop} :
    Follows .leading (MonadExcept.throw f >>= k) m' post := .left_bind trivial rfl

theorem next_followed (hi : i' = i.followedBy x) :
    Follows (.leading : Link σ) (liftM i.next) (liftM i'.next) (Found x) :=
  .lift (Input.next_meets hi)

theorem expect_followed (hi : i' = i.followedBy x) (what : String) :
    Follows (.leading : Link σ) (liftM (i.expect what)) (liftM (i'.expect what))
      fun p q => p.1 = q.1 ∧ i.SameText p.2.input ∧ q.2.input = p.2.input.followedBy x := by
  refine .lift ?_
  subst hi
  obtain ⟨name, ts, fault, line⟩ := i
  cases ts with
  | nil => cases fault <;> exact .parted trivial rfl
  | cons t ts => exact .ok ⟨rfl, ⟨rfl, rfl⟩, rfl⟩

section Sequences

variable {reference : Token → String → ExpandM (List Token)}
  {inline : Token → (i : Input) → ExpandM (Taken (List Token) i)}

/-- Directives are expanded in the same way before inputs that are followed by more. -/
def Inlined (x : Sequel) (inline : Token → (i : Input) → ExpandM (Taken (List Token) i)) : Prop :=
  ∀ t i i', i' = i.followedBy x → Follows .leading (inline t i) (inline t i') (Within x)

variable (hin : Inlined x inline)

include hin

theorem expandToken_followed (t : Token) (hi : i' = i.followedBy x) :
    Follows .leading (expandToken reference inline t i) (expandToken reference inline t i')
      (Within x) := by
  unfold Expansion.expandToken
  split
  · have hname : i'.name = i.name := hi ▸ rfl
    rw [hname]
    exact bind_again fun ts => .pure ⟨rfl, .refl i, hi⟩
  · exact hin t i i' hi
  · exact .pure ⟨rfl, .refl i, hi⟩

theorem readGroup_followed (o : Opening) (outer : List Opening) (hi : i' = i.followedBy x) :
    Follows .leading (readGroup reference inline o outer i) (readGroup reference inline o outer i')
      (Within x) := by
  induction hn : i.size using Nat.strongRecOn generalizing i i' o outer with
  | ind n ih =>
    have hname : i'.name = i.name := hi ▸ rfl
    rw [readGroup.eq_def reference inline o outer i, readGroup.eq_def reference inline o outer i',
      hname]
    refine .bind (expect_followed hi _) ?_
    rintro ⟨t, rest⟩ ⟨_, rest'⟩ ⟨rfl, htext, hrest⟩
    refine bind_again fun opened => ?_
    refine .bind (expandToken_followed hin t hrest) ?_
    rintro ⟨ts, more⟩ ⟨_, more'⟩ ⟨rfl, hmore, hmore'⟩
    have hless := rest.lt
    have hle := more.le
    cases opened with
    | nil => exact .pure ⟨rfl, htext.trans hmore, hmore'⟩
    | cons o outer =>
      refine .bind (ih more.input.size (by omega) o outer hmore' rfl) ?_
      rintro ⟨us, last⟩ ⟨_, last'⟩ ⟨rfl, hlast, hlast'⟩
      exact .pure ⟨rfl, (htext.trans hmore).trans hlast, hlast'⟩

theorem readArgument_followed (hi : i' = i.followedBy x) :
    Follows .leading (readArgument reference inline i) (readArgument reference inline i')
      (Within x) := by
  unfold Expansion.readArgument
  refine .bind (expect_followed hi _) ?_
  rintro ⟨t, rest⟩ ⟨_, rest'⟩ ⟨rfl, htext, hrest⟩
  dsimp only
  split
  · exact .fails
  · exact .fails
  · refine .bind (readGroup_followed hin _ _ hrest) ?_
    rintro ⟨ts, more⟩ ⟨_, more'⟩ ⟨rfl, hmore, hmore'⟩
    exact .pure ⟨rfl, htext.trans hmore, hmore'⟩
  · refine .bind (expandToken_followed hin t hrest) ?_
    rintro ⟨ts, more⟩ ⟨_, more'⟩ ⟨rfl, hmore, hmore'⟩
    exact .pure ⟨rfl, htext.trans hmore, hmore'⟩

/-- A value goes on up to a terminator; the one behind the input ends it at the latest. -/
theorem readValue_followed (opened : List Opening) (hi : i' = i.followedBy x) :
    Follows .leading (readValue reference inline opened i) (readValue reference inline opened i')
      (Beyond x fun p q => p.1 = q.1) := by
  induction hn : i.size using Nat.strongRecOn generalizing i i' opened with
  | ind n ih =>
    have hname : i'.name = i.name := hi ▸ rfl
    rw [readValue.eq_def reference inline opened i, readValue.eq_def reference inline opened i',
      hname]
    refine .bind (next_followed hi) ?_
    rintro _ _ (@⟨t, rest, rest', htext, hrest⟩ | ⟨htokens, hfault, hrest⟩)
    · dsimp only
      split
      · exact .pure (.within ⟨rfl, htext, hrest⟩)
      · refine bind_again fun opened => ?_
        refine .bind (expandToken_followed hin _ hrest) ?_
        rintro ⟨ts, more⟩ ⟨_, more'⟩ ⟨rfl, hmore, hmore'⟩
        have hless := rest.lt
        have hle := more.le
        have htext := htext.trans hmore
        refine .bind (ih more.input.size (by omega) opened hmore' rfl) ?_
        rintro ⟨⟨us, endLine⟩, last⟩ ⟨⟨us', endLine'⟩, last'⟩
          (⟨hsame, hlast, hlast'⟩ | ⟨rfl, hfault, htokens, hstarts⟩)
        · cases hsame
          exact .pure (.within ⟨rfl, htext.trans hlast, hlast'⟩)
        · exact .pure (.atEnd rfl (htext.fault.symm.trans hfault) htokens (htext.name ▸ hstarts))
    · cases opened with
      | cons => exact .fails
      | nil => exact .pure (.atEnd rfl hfault htokens hrest)

end Sequences

/-! ### Files, expressions and directives in values -/

section Contexts

variable (c : Context)

theorem locate_followed (optional : Bool) (t : Token) (hi : i' = i.followedBy x) :
    Follows .leading (locate c optional t i) (locate c optional t i') (Within x) := by
  have hname : i'.name = i.name := hi ▸ rfl
  unfold Expansion.locate
  refine .bind (expect_followed hi _) ?_
  rintro ⟨argument, rest⟩ ⟨_, rest'⟩ ⟨rfl, htext, hrest⟩
  dsimp -zeta only
  extract_lets find find'
  have hfind (raw : String) : Follows .leading (find raw) (find' raw) (Within x) := by
    dsimp only [find, find']
    rw [hname]
    refine bind_again fun name => bind_again fun places => bind_again fun found => ?_
    split
    · exact .pure ⟨rfl, htext, hrest⟩
    · split
      · exact .pure ⟨rfl, htext, hrest⟩
      · exact bind_again fun _ => .fails
  split
  all_goals first
    | exact bind_again hfind
    | exact .fails_bind

theorem calculate_followed (t : Token) (hi : i' = i.followedBy x) :
    Follows .leading (calculate c t i) (calculate c t i') (Within x) := by
  unfold Expansion.calculate
  refine .bind (expect_followed hi _) ?_
  rintro ⟨argument, rest⟩ ⟨_, rest'⟩ ⟨rfl, htext, hrest⟩
  dsimp -zeta only
  extract_lets evaluate evaluate'
  have hevaluate (source : String) :
      Follows .leading (evaluate source) (evaluate' source) (Within x) := by
    refine bind_again fun expression => ?_
    split
    · exact .fails
    · split
      · exact .pure ⟨rfl, htext, hrest⟩
      · exact .fails
    · exact .pure ⟨rfl, htext, hrest⟩
  split
  all_goals first
    | exact bind_again hevaluate
    | exact .fails_bind

theorem inline_followed (n : Nat) : Inlined x (inline c n) := by
  induction n with
  | zero => exact fun t i i' hi => .fails
  | succ n ih =>
    intro t i i' hi
    have hname : i'.name = i.name := hi ▸ rfl
    unfold Expansion.inline
    rw [hname]
    refine bind_again fun d => ?_
    cases d with
    | calculate => exact calculate_followed c t hi
    | negate =>
      refine .bind (readArgument_followed ih hi) ?_
      rintro ⟨ts, rest⟩ ⟨_, rest'⟩ ⟨rfl, htext, hrest⟩
      dsimp only
      split
      · exact .pure ⟨rfl, htext, hrest⟩
      · exact .fails
    | includeFile optional =>
      refine .bind (locate_followed c optional t hi) ?_
      rintro ⟨found, rest⟩ ⟨_, rest'⟩ ⟨rfl, htext, hrest⟩
      dsimp only
      split
      · exact .pure ⟨rfl, htext, hrest⟩
      · exact bind_again fun file => bind_again fun ts => .pure ⟨rfl, htext, hrest⟩
    | ifEqual | ifTrue | otherwise | endIf | remove | inputMode | blank => exact .fails

end Contexts

end Follows

end CaseDict
