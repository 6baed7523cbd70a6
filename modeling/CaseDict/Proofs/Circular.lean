import CaseDict.Proofs.Lexing
import CaseDict.Proofs.Limits
import CaseDict.Proofs.Termination
/-! # Circular references

Names whose texts in the environment refer to each other again and again have no values. A read that
expands a reference to one of them does not give a dictionary: what the reference stands for holds
such a reference again, and no directive that takes it as an argument saves the read from expanding
it. -/

namespace CaseDict

open Expansion Statement

variable {S : String → Prop}

/-- The texts that the environment has for names in `S` refer to names in `S`. -/
def Circular (S : String → Prop) (environment : List (String × String)) : Prop :=
  ∀ name text, S name → environment.lookup name = some text →
    ∃ t ∈ (Lexer.lex 1 text.toList).tokens, ∃ name', S name' ∧ t.symbol = .reference name'

/-- No entry around has a name in `S`. -/
def Undefined (S : String → Prop) (frames : List (Frame Entry)) : Prop :=
  ∀ name, S name → Lookup.scopedEntry Entry.inspection frames name = none

/-- A name in `S` is expanded where no entry has such a name. -/
def Visit.IsCircular (S : String → Prop) (v : Visit) : Prop := S v.name ∧ Undefined S v.frames

/-- Some of the tokens refers to a name in `S`. -/
def Token.Refer (S : String → Prop) (ts : List Token) : Prop :=
  ∃ t ∈ ts, ∃ name, S name ∧ t.symbol = .reference name

namespace Token

variable {t : Token} {ts : List Token}

theorem refer_cons :
    Refer S (t :: ts) ↔ (∃ name, S name ∧ t.symbol = .reference name) ∨ Refer S ts := by
  simp [Refer]

theorem Refer.tail (h : Refer S (t :: ts)) (ht : ∀ name, t.symbol ≠ .reference name) :
    Refer S ts :=
  (refer_cons.mp h).resolve_left fun ⟨name, _, hs⟩ => ht name hs

/-- What the environment has for a name in `S` refers to one again. -/
theorem refer_of_circular {environment : List (String × String)} (h : Circular S environment)
    {frames : List (Frame Entry)} (hu : Undefined S frames) {name : String} (hname : S name)
    {line : Int} (hts : Surroundings.tokens ⟨frames, environment⟩ name line = .ok ts) :
    Refer S ts := by
  unfold Surroundings.tokens at hts
  have hnone : Surroundings.find? ⟨frames, environment⟩ name = none := hu name hname
  rw [hnone] at hts
  dsimp only at hts
  split at hts
  · next text htext =>
    obtain ⟨t, ht, name', hname', hs⟩ :=
      h name text hname (Surroundings.lookup_of_environmentText? htext)
    obtain ⟨us, hlex, rfl⟩ := Surroundings.environmentTokens_eq_ok hts
    rw [hlex] at ht
    exact ⟨{ t with line }, List.mem_map_of_mem ht, name', hname', hs⟩
  · contradiction

end Token

/-- An argument is taken from the input, and it is no reference. -/
def Expansion.TakesOther {α : Type} (i : Input) (p : Taken α i) : Prop :=
  ∃ t, i.tokens = t :: p.2.input.tokens ∧ ∀ name, t.symbol ≠ .reference name

namespace Follows

/-- A computation beside itself. -/
theorem refl {σ α : Type} (m : ExceptT Failure (StateM σ) α) :
    Follows .same m m (Same fun _ => True) where
  ends s _ := by
    rintro rfl
    rcases exec m s with ⟨_ | a, t⟩
    · exact .error trivial
    · exact .ok ⟨rfl, trivial⟩ rfl
  stays after ha := by contradiction

/-- What follows of a computation beside itself holds of its results. -/
theorem holds {σ α : Type} {m : ExceptT Failure (StateM σ) α} {post : α → Prop}
    (h : Follows .same m m fun a _ => post a) {s s' : σ} {a : α} (hm : exec m s = (.ok a, s')) :
    post a := by
  have h := h.ends s s rfl
  rw [hm] at h
  cases h with
  | ok h => exact h

theorem calculate_takesOther (c : Context) (t : Token) (i : Input) :
    Follows .same (Expansion.calculate c t i) (Expansion.calculate c t i)
      fun p _ => TakesOther i p := by
  unfold Expansion.calculate
  refine .bind_same (.lift_same fun _ _ => trivial) fun ⟨argument, rest⟩ hexpect => ?_
  have htokens := Input.tokens_of_expect hexpect
  dsimp -zeta only
  extract_lets evaluate
  have hevaluate (source : String) (hother : ∀ name, argument.symbol ≠ .reference name) :
      Follows .same (evaluate source) (evaluate source) fun p _ => TakesOther i p := by
    refine .bind_same (.refl _) fun expression _ => ?_
    split
    · exact .throw trivial
    · split
      · exact .pure ⟨argument, htokens, hother⟩
      · exact .throw trivial
    · exact .pure ⟨argument, htokens, hother⟩
  obtain ⟨symbol, line⟩ := argument
  cases symbol with
  | quoted | word | number =>
    exact .bind_same .pure_same fun source _ => hevaluate source fun _ => by simp
  | _ => exact .throw_bind trivial

theorem locate_takesOther (c : Context) (optional : Bool) (t : Token) (i : Input) :
    Follows .same (Expansion.locate c optional t i) (Expansion.locate c optional t i)
      fun p _ => TakesOther i p := by
  unfold Expansion.locate
  refine .bind_same (.lift_same fun _ _ => trivial) fun ⟨argument, rest⟩ hexpect => ?_
  have htokens := Input.tokens_of_expect hexpect
  dsimp -zeta only
  extract_lets find
  have hfind (raw : String) (hother : ∀ name, argument.symbol ≠ .reference name) :
      Follows .same (find raw) (find raw) fun p _ => TakesOther i p := by
    refine .bind_same (.refl _) fun name _ => ?_
    refine .bind_same (.refl _) fun places _ => ?_
    refine .bind_same (.refl _) fun found _ => ?_
    split
    · exact .pure ⟨argument, htokens, hother⟩
    · split
      · exact .pure ⟨argument, htokens, hother⟩
      · exact .bind_same (.refl _) fun _ _ => .throw trivial
  obtain ⟨symbol, line⟩ := argument
  cases symbol with
  | quoted | word => exact .bind_same .pure_same fun raw _ => hfind raw fun _ => by simp
  | _ => exact .throw_bind trivial

end Follows

namespace Fuelled

variable {σ α β γ : Type}

/-- If the computation gives a result, `post` holds of it and nothing bad was visited. -/
def Avoids (bad : Visit → Prop) (m : FuelM σ α) (post : α → Prop) : Prop :=
  ∀ s visits a s' visits', run m s visits = some (.ok a, s', visits') →
    (∀ v ∈ visits', bad v → v ∈ visits) ∧ post a

namespace Avoids

variable {bad : Visit → Prop} {m : FuelM σ α} {k : α → FuelM σ β} {post : α → Prop}

theorem pure {a : α} (h : post a) : Avoids bad (Pure.pure a : FuelM σ α) post := by
  rintro s visits _ _ _ ⟨⟩
  exact ⟨fun v hv _ => hv, h⟩

theorem throw (f : Failure) : Avoids bad (MonadExcept.throw f : FuelM σ α) post := by
  rintro s visits _ _ _ ⟨⟩

theorem spent : Avoids bad (Fuelled.spent : FuelM σ α) post := by
  rintro s visits _ _ _ ⟨⟩

theorem lift {r : Except Failure α} (h : ∀ a, r = .ok a → post a) :
    Avoids bad (liftM r : FuelM σ α) post := by
  intro s visits a s' visits' hrun
  rw [run_lift] at hrun
  cases hrun
  exact ⟨fun v hv _ => hv, h a rfl⟩

theorem plain {m : ExceptT Failure (StateM σ) α} (h : ∀ s a s', exec m s = (.ok a, s') → post a) :
    Avoids bad (Fuelled.plain m) post := by
  intro s visits a s' visits' hrun
  rw [run_plain] at hrun
  rcases hm : exec m s with ⟨_ | b, t⟩
  · rw [hm] at hrun
    cases hrun
  · rw [hm] at hrun
    cases hrun
    exact ⟨fun v hv _ => hv, h _ _ _ hm⟩

theorem lift_any {r : Except Failure α} : Avoids bad (liftM r : FuelM σ α) fun _ => True :=
  .lift fun _ _ => trivial

theorem plain_any {m : ExceptT Failure (StateM σ) α} : Avoids bad (Fuelled.plain m) fun _ => True :=
  .plain fun _ _ _ _ => trivial

theorem mono {post' : α → Prop} (h : Avoids bad m post) (hp : ∀ a, post a → post' a) :
    Avoids bad m post' :=
  fun s visits a s' visits' hrun => (h s visits a s' visits' hrun).imp_right (hp a)

theorem bind {post' : β → Prop} (hm : Avoids bad m post)
    (hk : ∀ a, post a → Avoids bad (k a) post') : Avoids bad (m >>= k) post' := by
  intro s visits b s' visits' hrun
  rw [run_bind] at hrun
  split at hrun
  · contradiction
  · next a t visited ht =>
    obtain ⟨hold, ha⟩ := hm _ _ _ _ _ ht
    obtain ⟨hnew, hb⟩ := hk a ha _ _ _ _ _ hrun
    exact ⟨fun v hv hbad => hold v (hnew v hv hbad) hbad, hb⟩
  · cases hrun

/-- A visit that is not bad if a result is given. -/
theorem noted {v : Visit} (hm : Avoids bad m post) (hv : ∀ a, post a → ¬bad v) :
    Avoids bad (do note v; m) post := by
  intro s visits a s' visits' hrun
  rw [run_bind, run_note] at hrun
  obtain ⟨hnew, ha⟩ := hm _ _ _ _ _ hrun
  refine ⟨fun u hu hbad => ?_, ha⟩
  rcases List.mem_append.mp (hnew u hu hbad) with hmem | hmem
  · exact hmem
  · exact absurd (List.mem_singleton.mp hmem ▸ hbad) (hv a ha)

theorem checkDepth {c : Context} {depth : Int} {t : Token} {source : String}
    (hm : Avoids bad m post) : Avoids bad (do Fuelled.checkDepth c depth t source; m) post := by
  unfold Fuelled.checkDepth
  split
  · exact .throw _
  · exact hm

theorem adapt (hm : Avoids bad m post) (g : Failure → Failure) :
    Avoids bad (ExceptT.adapt g m) post := by
  intro s visits a s' visits' hrun
  rw [run_adapt] at hrun
  obtain ⟨⟨r, t, visited⟩, ht, hr⟩ := Option.map_eq_some_iff.mp hrun
  cases r with
  | error f => cases hr
  | ok b =>
    cases hr
    exact hm _ _ _ _ _ ht

theorem expanding {setup : Setup} {act : Context → FuelM (List Event) α}
    (h : ∀ frames, Avoids bad (act ⟨setup, frames⟩) post) :
    Avoids bad (Fuelled.expanding setup act) post := by
  intro s visits a s' visits' hrun
  rw [run_expanding] at hrun
  obtain ⟨⟨r, t, visited⟩, ht, hr⟩ := Option.map_eq_some_iff.mp hrun
  cases hr
  exact h _ _ _ _ _ _ ht

theorem between {enter : σ → σ} {leave : σ → σ → γ × σ} (hm : Avoids bad m post) :
    Avoids bad (Fuelled.between enter leave m) fun p => post p.1 := by
  intro s visits a s' visits' hrun
  rw [run_between] at hrun
  obtain ⟨⟨r, t, visited⟩, ht, hr⟩ := Option.map_eq_some_iff.mp hrun
  cases r with
  | error f => cases hr
  | ok b =>
    cases hr
    exact hm _ _ _ _ _ ht

end Avoids

/-! ### Expansion -/

/-- The tokens refer to a name in `S`, and no entry around has such a name. -/
def Caught (S : String → Prop) (c : Context) (ts : List Token) : Prop :=
  Undefined S c.frames ∧ Token.Refer S ts

theorem Caught.tail {c : Context} {t : Token} {ts : List Token} (h : Caught S c (t :: ts))
    (ht : ∀ name, t.symbol ≠ .reference name) : Caught S c ts := ⟨h.1, h.2.tail ht⟩

/-- With that much fuel no circular reference is expanded to a result, and none that the input
holds is passed over. -/
structure Unescapable (S : String → Prop) (c : Context) (fuel : Nat) : Prop where
  token (depth : Int) (t : Token) (i : Input) :
    Avoids (Visit.IsCircular S) (expandToken c fuel depth t i)
      fun p => Caught S c (t :: i.tokens) → Caught S c p.2.tokens
  all (depth : Int) (i : Input) :
    Avoids (Visit.IsCircular S) (expandAll c fuel depth i) fun _ => ¬Caught S c i.tokens
  group (depth : Int) (o : Opening) (outer : List Opening) (i : Input) :
    Avoids (Visit.IsCircular S) (readGroup c fuel depth o outer i)
      fun p => Caught S c i.tokens → Caught S c p.2.tokens
  argument (depth : Int) (i : Input) :
    Avoids (Visit.IsCircular S) (readArgument c fuel depth i)
      fun p => Caught S c i.tokens → Caught S c p.2.tokens
  reference (depth : Int) (t : Token) (source : String) :
    Avoids (Visit.IsCircular S) (reference c fuel depth t source)
      fun _ => ¬Visit.IsCircular S ⟨t.symbol.value, c.frames⟩
  inline (depth : Int) (t : Token) (i : Input) :
    Avoids (Visit.IsCircular S) (inline c fuel depth t i)
      fun p => Caught S c i.tokens → Caught S c p.2.tokens

namespace Unescapable

variable {c : Context} {fuel : Nat}

variable (h : Unescapable S c fuel)

include h

theorem token_succ (depth : Int) (t : Token) (i : Input) :
    Avoids (Visit.IsCircular S) (expandToken c (fuel + 1) depth t i)
      fun p => Caught S c (t :: i.tokens) → Caught S c p.2.tokens := by
  obtain ⟨symbol, line⟩ := t
  cases symbol with
  | reference name =>
    refine .bind (h.reference (depth + 1) ⟨.reference name, line⟩ i.name) fun ts hts => .pure ?_
    rintro ⟨hu, hrefer⟩
    refine ⟨hu, (Token.refer_cons.mp hrefer).resolve_left ?_⟩
    rintro ⟨_, hname, ⟨⟩⟩
    exact hts ⟨hname, hu⟩
  | directive name =>
    exact (h.inline (depth + 1) ⟨.directive name, line⟩ i).mono fun p hp hcaught =>
      hp (hcaught.tail fun _ => by simp)
  | _ => exact .pure fun hcaught => hcaught.tail fun _ => by simp

theorem all_succ (depth : Int) (i : Input) :
    Avoids (Visit.IsCircular S) (expandAll c (fuel + 1) depth i) fun _ => ¬Caught S c i.tokens := by
  refine .bind (.lift fun found hfound => hfound) fun found hfound => ?_
  cases found with
  | none =>
    refine .pure ?_
    rw [Input.tokens_of_end hfound]
    simp [Caught, Token.Refer]
  | some p =>
    obtain ⟨t, rest⟩ := p
    rw [Input.tokens_of_next hfound]
    refine .bind (h.token depth t rest.input) fun ⟨ts, more⟩ hmore => ?_
    exact .bind (h.all depth more) fun us hus => .pure fun hcaught => hus (hmore hcaught)

theorem group_succ (depth : Int) (o : Opening) (outer : List Opening) (i : Input) :
    Avoids (Visit.IsCircular S) (readGroup c (fuel + 1) depth o outer i)
      fun p => Caught S c i.tokens → Caught S c p.2.tokens := by
  refine .bind (.lift fun _ hexpect => hexpect) fun ⟨t, rest⟩ hexpect => ?_
  rw [Input.tokens_of_expect hexpect]
  refine .bind .lift_any fun opened _ => ?_
  refine .bind (h.token depth t rest.input) fun ⟨ts, more⟩ hmore => ?_
  cases opened with
  | nil => exact .pure hmore
  | cons o outer =>
    refine .bind (h.group depth o outer more) fun ⟨us, last⟩ hlast => .pure fun hcaught => ?_
    exact hlast (hmore hcaught)

theorem argument_succ (depth : Int) (i : Input) :
    Avoids (Visit.IsCircular S) (readArgument c (fuel + 1) depth i)
      fun p => Caught S c i.tokens → Caught S c p.2.tokens := by
  refine .bind (.lift fun _ hexpect => hexpect) fun ⟨⟨symbol, line⟩, rest⟩ hexpect => ?_
  rw [Input.tokens_of_expect hexpect]
  cases symbol with
  | terminator | closer => exact .throw _
  | opener b =>
    refine .bind (h.group depth ⟨b, line⟩ [] rest.input) fun ⟨ts, more⟩ hmore => .pure ?_
    exact fun hcaught => hmore (hcaught.tail fun _ => by simp)
  | _ => exact h.token depth _ rest.input

theorem reference_succ (hS : Circular S c.setup.settings.environment) (depth : Int) (t : Token)
    (source : String) : Avoids (Visit.IsCircular S) (Fuelled.reference c (fuel + 1) depth t source)
      fun _ => ¬Visit.IsCircular S ⟨t.symbol.value, c.frames⟩ := by
  refine .noted (.checkDepth ?_) fun _ hv => hv
  refine .bind (.lift fun _ htokens => htokens) fun ts htokens => ?_
  have hcaught (hv : Visit.IsCircular S ⟨t.symbol.value, c.frames⟩) : Caught S c ts :=
    ⟨hv.2, Token.refer_of_circular hS hv.2 hv.1 htokens⟩
  split
  · exact (h.all depth _).mono fun _ hts hv => hts (hcaught hv)
  · next hm =>
    refine .pure fun hv => ?_
    obtain ⟨-, u, hu, name, -, hs⟩ := hcaught hv
    exact hm (List.any_eq_true.mpr ⟨u, hu, by rw [hs]; rfl⟩)

theorem inline_succ (depth : Int) (t : Token) (i : Input) :
    Avoids (Visit.IsCircular S) (Fuelled.inline c (fuel + 1) depth t i)
      fun p => Caught S c i.tokens → Caught S c p.2.tokens := by
  have hother {α : Type} {p : Taken α i} (hp : TakesOther i p) (hcaught : Caught S c i.tokens) :
      Caught S c p.2.input.tokens := by
    obtain ⟨u, htokens, hu⟩ := hp
    rw [htokens] at hcaught
    exact hcaught.tail hu
  refine .checkDepth (.bind .lift_any fun d _ => ?_)
  cases d with
  | calculate =>
    refine .bind (.plain fun _ _ _ => (Follows.calculate_takesOther c t i).holds) ?_
    exact fun p hp => .pure (hother hp)
  | negate =>
    refine .bind (h.argument depth i) fun ⟨argument, rest⟩ hrest => ?_
    dsimp only
    split
    · exact .pure hrest
    · exact .throw _
  | includeFile optional =>
    refine .bind (.plain fun _ _ _ => (Follows.locate_takesOther c optional t i).holds) ?_
    rintro ⟨found, rest⟩ hrest
    cases found with
    | none => exact .pure (hother hrest)
    | some p =>
      refine .bind (.plain_any) fun file _ => ?_
      exact .bind (h.all depth file) fun ts _ => .pure (hother hrest)
  | _ => exact .throw _

end Unescapable

theorem unescapable {c : Context} (hS : Circular S c.setup.settings.environment) (fuel : Nat) :
    Unescapable S c fuel := by
  induction fuel with
  | zero => exact ⟨fun _ _ _ => .spent, fun _ _ => .spent, fun _ _ _ _ => .spent,
      fun _ _ => .spent, fun _ _ _ => .spent, fun _ _ _ => .spent⟩
  | succ fuel ih => exact ⟨ih.token_succ, ih.all_succ, ih.group_succ, ih.argument_succ,
      ih.reference_succ hS, ih.inline_succ⟩

/-! ### Statements -/

variable {setup : Setup} (hS : Circular S setup.settings.environment)

/-- No circular reference is expanded on the way to a result. -/
abbrev Escapes (S : String → Prop) (m : FuelM σ α) : Prop :=
  Avoids (Visit.IsCircular S) m fun _ => True

include hS

theorem escapes_readValue (frames : List (Frame Entry)) (fuel : Nat) (depth : Int)
    (opened : List Opening) (i : Input) :
    Escapes S (readValue ⟨setup, frames⟩ fuel depth opened i) := by
  induction fuel generalizing opened i with
  | zero => exact .spent
  | succ fuel ih =>
    refine .bind .lift_any fun found _ => ?_
    cases found with
    | none => cases opened <;> first | exact .pure trivial | exact .throw _
    | some p =>
      obtain ⟨t, rest⟩ := p
      dsimp only
      split
      · exact .pure trivial
      · refine .bind .lift_any fun opened _ => ?_
        refine .bind ((unescapable hS fuel).token depth t rest.input) fun ⟨ts, more⟩ _ => ?_
        exact .bind (ih opened more) fun _ _ => .pure trivial

theorem escapes_argument (fuel : Nat) (depth : Int) (i : Input) :
    Escapes S (expanding setup fun c => readArgument c fuel depth i) :=
  .expanding fun frames => ((unescapable (c := ⟨setup, frames⟩) hS fuel).argument depth i).mono
    fun _ _ => trivial

theorem escapes_readPrimitive (fuel : Nat) (depth : Int) (h : Heading) (i : Input) :
    Escapes S (readPrimitive setup fuel depth h i) :=
  .bind (.expanding fun frames => escapes_readValue hS frames fuel depth [] i) fun _ _ =>
    .bind .lift_any fun _ _ => .pure trivial

omit hS in
theorem escapes_skipBranch (own : Directive) (t : Token) (allowOtherwise : Bool) (fuel inner : Nat)
    (i : Input) : Escapes S (skipBranch own t allowOtherwise fuel inner i) := by
  induction fuel generalizing inner i with
  | zero => exact .spent
  | succ fuel ih =>
    refine .bind .lift_any fun found _ => ?_
    cases found with
    | none => exact .throw _
    | some p =>
      obtain ⟨found, rest⟩ := p
      dsimp only
      split
      · exact ih (inner + 1) rest.input
      · split
        · cases inner with
          | zero => exact .pure trivial
          | succ inner => exact ih inner rest.input
        · split
          · split
            · exact .pure trivial
            · exact .throw _
          · exact ih inner rest.input

/-- With that much fuel no circular reference is expanded on the way to a result. -/
structure AllEscape (S : String → Prop) (setup : Setup) (fuel : Nat) : Prop where
  entries (depth : Int) (nesting : Nat) (closing : Option Heading) (stops : List String)
    (i : Input) : Escapes S (readEntries setup fuel depth nesting closing stops i)
  statement (depth : Int) (nesting : Nat) (t : Token) (i : Input) :
    Escapes S (readStatement setup fuel depth nesting t i)
  entry (depth : Int) (nesting : Nat) (h : Heading) (i : Input) :
    Escapes S (readEntry setup fuel depth nesting h i)
  conditional (depth : Int) (nesting : Nat) (own : Directive) (t : Token) (holds : Bool)
    (i : Input) : Escapes S (conditional setup fuel depth nesting own t holds i)
  directive (depth : Int) (nesting : Nat) (t : Token) (i : Input) :
    Escapes S (runDirective setup fuel depth nesting t i)

namespace AllEscape

omit hS

variable {fuel : Nat} (h : AllEscape S setup fuel)

include h

theorem entries_succ (depth : Int) (nesting : Nat) (closing : Option Heading) (stops : List String)
    (i : Input) : Escapes S (readEntries setup (fuel + 1) depth nesting closing stops i) := by
  refine .bind .lift_any fun found _ => ?_
  cases found with
  | none => cases closing <;> first | exact .pure trivial | exact .throw _
  | some p =>
    obtain ⟨t, rest⟩ := p
    dsimp only
    split
    · split
      · exact .pure trivial
      · exact .throw _
    · split
      · exact h.entries depth nesting closing stops rest.input
      · split
        · exact .pure trivial
        · refine .bind (h.statement depth nesting t rest.input) fun ⟨es, more⟩ _ => ?_
          exact h.entries depth nesting closing stops more

theorem statement_succ (depth : Int) (nesting : Nat) (t : Token) (i : Input) :
    Escapes S (readStatement setup (fuel + 1) depth nesting t i) := by
  refine .adapt ?_ _
  obtain ⟨symbol, line⟩ := t
  cases symbol with
  | directive name =>
    refine .bind (h.directive (depth + 1) nesting ⟨.directive name, line⟩ i) fun ⟨es, rest⟩ _ => ?_
    exact .bind .plain_any fun _ _ => .pure trivial
  | reference name => exact .bind .plain_any fun _ _ => .bind .plain_any fun _ _ => .pure trivial
  | word | quoted =>
    exact .bind (h.entry depth nesting _ i) fun _ _ => .bind .plain_any fun _ _ => .pure trivial
  | _ => exact .throw _

theorem conditional_succ (depth : Int) (nesting : Nat) (own : Directive) (t : Token) (holds : Bool)
    (i : Input) : Escapes S (Fuelled.conditional setup (fuel + 1) depth nesting own t holds i) := by
  have hblock (i : Input) :
      Escapes S (inBlock (readEntries setup fuel depth nesting none branchEnds i)) :=
    .between (h.entries depth nesting none branchEnds i)
  cases holds with
  | true =>
    refine .bind (hblock i) fun ⟨⟨ending, rest⟩, es⟩ _ => ?_
    cases ending with
    | none => exact .throw _
    | some found =>
      dsimp only
      split
      · exact .bind (escapes_skipBranch own t false fuel 0 rest) fun _ _ => .pure trivial
      · exact .pure trivial
  | false =>
    refine .bind (escapes_skipBranch own t true fuel 0 i) fun ⟨ending, rest⟩ _ => ?_
    dsimp only
    split
    · refine .bind (hblock rest) fun ⟨⟨ending, more⟩, es⟩ _ => ?_
      cases ending with
      | none => exact .throw _
      | some found =>
        dsimp only
        split
        · exact .throw _
        · exact .pure trivial
    · exact .pure trivial

include hS

theorem entry_succ (depth : Int) (nesting : Nat) (k : Heading) (i : Input) :
    Escapes S (readEntry setup (fuel + 1) depth nesting k i) := by
  have hprimitive := escapes_readPrimitive hS fuel depth k i
  refine .bind .lift_any fun found _ => ?_
  obtain _ | ⟨⟨symbol, line⟩, rest⟩ := found
  · exact .bind .lift_any fun _ _ => .pure trivial
  · cases symbol with
    | opener b =>
      cases b with
      | brace =>
        dsimp only
        split
        · exact .throw _
        · refine .bind .lift_any fun k _ => ?_
          have hinside := h.entries depth (nesting + 1) (some k) [] rest.input
          exact .bind (.between hinside) fun _ _ => .pure trivial
      | _ => exact hprimitive
    | reference name =>
      refine .bind .plain_any fun around _ => ?_
      dsimp only
      obtain _ | ⟨k, ts⟩ | ⟨k, es⟩ := around.find? name
      · exact hprimitive
      · exact hprimitive
      · exact .bind .plain_any fun _ _ => .pure trivial
    | _ => exact hprimitive

theorem directive_succ (depth : Int) (nesting : Nat) (t : Token) (i : Input) :
    Escapes S (runDirective setup (fuel + 1) depth nesting t i) := by
  have hargument (i : Input) := escapes_argument hS fuel depth i
  refine .checkDepth (.bind .lift_any fun d _ => ?_)
  cases d with
  | includeFile optional =>
    refine .bind .plain_any fun ⟨found, rest⟩ _ => ?_
    cases found with
    | none => exact .pure trivial
    | some p =>
      refine .bind .plain_any fun file _ => ?_
      exact .bind (.between (h.entries depth nesting none [] file)) fun _ _ => .pure trivial
  | ifEqual =>
    refine .bind (hargument i) fun ⟨left, first⟩ _ => ?_
    exact .bind (hargument first) fun ⟨right, rest⟩ _ => h.conditional _ _ _ _ _ _
  | ifTrue =>
    refine .bind (hargument i) fun ⟨condition, rest⟩ _ => ?_
    dsimp only
    split
    · exact .throw _
    · exact h.conditional _ _ _ _ _ _
  | remove =>
    refine .bind (hargument i) fun ⟨names, rest⟩ _ => ?_
    exact .bind .plain_any fun _ _ => .pure trivial
  | inputMode => exact .bind .plain_any fun _ _ => .pure trivial
  | _ => exact .throw _

end AllEscape

theorem all_escape (fuel : Nat) : AllEscape S setup fuel := by
  induction fuel with
  | zero => exact ⟨fun _ _ _ _ _ => .spent, fun _ _ _ _ => .spent, fun _ _ _ _ => .spent,
      fun _ _ _ _ _ _ => .spent, fun _ _ _ _ => .spent⟩
  | succ fuel ih => exact ⟨ih.entries_succ, ih.statement_succ, ih.entry_succ hS,
      ih.conditional_succ, ih.directive_succ hS⟩

omit hS

/-! ### Whole reads -/

/-- Every read ends: there is an amount of fuel from which on it never runs out of it, and comes to
the result of the reader without fuel. And whatever the fuel, a read that expands a reference to a
name in a set of names whose texts in the environment refer to names of the set, where no entry has
such a name, does not come to a dictionary. -/
theorem read_ends_and_rejects (setup : Setup) (i : Input) :
    (∃ bound visits, ∀ fuel ≥ bound, read setup fuel i = some (Reader.read setup i, visits)) ∧
    ∀ S, Circular S setup.settings.environment → ∀ fuel result visits,
      read setup fuel i = some (result, visits) → (∃ v ∈ visits, v.IsCircular S) →
        ∀ e, result.1 ≠ .ok e := by
  refine ⟨read_ends setup i, fun S hS fuel result visits hread hvisit e he => ?_⟩
  obtain ⟨v, hv, hcircular⟩ := hvisit
  obtain ⟨⟨r, s, visits⟩, hrun, heq⟩ := Option.map_eq_some_iff.mp hread
  cases r with
  | error f =>
    cases heq
    contradiction
  | ok p =>
    cases heq
    have hescape := ((all_escape hS fuel).entries 0 0 none [] i _ _ _ _ _ hrun).1
    exact absurd (hescape v hv hcircular) (by simp)

/-- Two texts of the environment that refer to each other. -/
theorem rejects_mutual : ∃ result visits,
    Circular (fun name => name = "A" ∨ name = "B") [("A", "$B"), ("B", "$A")] ∧
    read ((environmentSetup [("A", "$B"), ("B", "$A")]).limited 3 3) 20
      (.ofTokens "t" [⟨.word "x", 1⟩, ⟨.reference "A", 1⟩, ⟨.terminator, 1⟩]) =
        some (result, visits) ∧
    (∃ v ∈ visits, v.IsCircular fun name => name = "A" ∨ name = "B") ∧
    ∀ e, result.1 ≠ .ok e := by
  have hcircular :
      Circular (fun name => name = "A" ∨ name = "B") [("A", "$B"), ("B", "$A")] := by
    have hA : Lexer.lex 1 "$A".toList = ⟨[⟨.reference "A", 1⟩], none⟩ :=
      Lexer.lex_of_lexWithin (n := 2) (by cbv)
    have hB : Lexer.lex 1 "$B".toList = ⟨[⟨.reference "B", 1⟩], none⟩ :=
      Lexer.lex_of_lexWithin (n := 2) (by cbv)
    rintro name text (rfl | rfl) hlookup
    · obtain rfl : "$B" = text := Option.some.inj hlookup
      rw [hB]
      exact ⟨_, List.mem_singleton_self _, "B", .inr rfl, rfl⟩
    · obtain rfl : "$A" = text := Option.some.inj hlookup
      rw [hA]
      exact ⟨_, List.mem_singleton_self _, "A", .inl rfl, rfl⟩
  have hread : read ((environmentSetup [("A", "$B"), ("B", "$A")]).limited 3 3) 20
      (.ofTokens "t" [⟨.word "x", 1⟩, ⟨.reference "A", 1⟩, ⟨.terminator, 1⟩]) =
      some ((.error (.inText (.expansionTooDeep "$B" 3) 1 "$A"), []), [⟨"A", [⟨[], false⟩]⟩,
        ⟨"B", [⟨[], false⟩]⟩, ⟨"A", [⟨[], false⟩]⟩, ⟨"B", [⟨[], false⟩]⟩]) := by
    cbv
  have hvisit : Visit.IsCircular (fun name => name = "A" ∨ name = "B") ⟨"A", [⟨[], false⟩]⟩ := by
    refine ⟨.inl rfl, ?_⟩
    rintro name (rfl | rfl) <;> cbv
  have hvisits := List.mem_cons_self (a := (⟨"A", [⟨[], false⟩]⟩ : Visit))
    (l := [⟨"B", [⟨[], false⟩]⟩, ⟨"A", [⟨[], false⟩]⟩, ⟨"B", [⟨[], false⟩]⟩])
  exact ⟨_, _, hcircular, hread, ⟨_, hvisits, hvisit⟩,
    (read_ends_and_rejects _ _).2 _ hcircular 20 _ _ hread ⟨_, hvisits, hvisit⟩⟩

end Fuelled

end CaseDict
