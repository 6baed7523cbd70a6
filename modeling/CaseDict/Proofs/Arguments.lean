import CaseDict.Proofs.Contexts
import CaseDict.Proofs.Forest
import Mathlib
/-! # Bracketed arguments

The argument of a directive that begins with an opening bracket is the bracketed group there
(`readArgument_bracketed`). While it is read the brackets that are open, and what was read in each
of them, are a `Spine`: a closing bracket either ends the innermost one or is an error, and reading
ends with the outermost one. What references in the group stand for is put in their place and does
not count. -/

namespace CaseDict

open Expansion Grammar

/-! ### Groups -/

namespace Forest

def append : Forest → Forest → Forest
  | nil, g => g
  | leaf t ht rest, g => leaf t ht (rest.append g)
  | group b line line' inner rest, g => group b line line' inner (rest.append g)

theorem tokens_append (f g : Forest) : (f.append g).tokens = f.tokens ++ g.tokens := by
  induction f with
  | nil => rfl
  | leaf t ht rest ih => rw [append, tokens, ih]; rfl
  | group b line line' inner rest _ ih => simp [append, tokens, ih]

end Forest

namespace Token

theorem Balanced.append {ts us : List Token} :
    Balanced ts → Balanced us → Balanced (ts ++ us) := by
  rintro ⟨f, rfl⟩ ⟨g, rfl⟩
  exact ⟨f.append g, f.tokens_append g⟩

theorem Balanced.group (b : Bracket) (line line' : Int) {ts : List Token} :
    Balanced ts → Balanced (⟨.opener b, line⟩ :: (ts ++ [⟨.closer b, line'⟩])) := by
  rintro ⟨f, rfl⟩
  exact ⟨.group b line line' f .nil, rfl⟩

theorem balanced_singleton {t : Token} (ht : t.symbol.isBracket = false) : Balanced [t] :=
  ⟨.leaf t ht .nil, rfl⟩

/-- The tokens are one group between two brackets. -/
def IsGroup (ts : List Token) : Prop :=
  ∃ b line line' us, Balanced us ∧ ts = ⟨.opener b, line⟩ :: (us ++ [⟨.closer b, line'⟩])

/-- At most one group begins a list of tokens. -/
theorem IsGroup.eq_of_prefix {g g' ts : List Token} (hg : IsGroup g) (hg' : IsGroup g')
    (h : g <+: ts) (h' : g' <+: ts) : g = g' := by
  obtain ⟨b, line, line', _, ⟨f, rfl⟩, rfl⟩ := hg
  obtain ⟨b', l, l', _, ⟨f', rfl⟩, rfl⟩ := hg'
  obtain ⟨us, rfl⟩ := h
  obtain ⟨vs, heq⟩ := h'
  simp only [List.append_assoc, List.cons_append, List.nil_append, List.cons.injEq] at heq
  obtain ⟨hopen, hrest⟩ := heq
  obtain ⟨rfl, hclose⟩ :=
    Forest.tokens_append_inj (by simp [Symbol.isCloser]) (by simp [Symbol.isCloser]) hrest
  rw [hopen, (List.cons.inj hclose).1]

/-- Where every reference is replaced by tokens whose brackets nest and are closed, the brackets
still do and are. -/
theorem Balanced.flatMap {ts : List Token} (h : Balanced ts) {σ : Token → List Token}
    (hliteral : ∀ t ∈ ts, t.symbol.isMacro = false → σ t = [t])
    (hexpanded : ∀ t ∈ ts, t.symbol.isMacro → Balanced (σ t)) : Balanced (ts.flatMap σ) := by
  obtain ⟨f, rfl⟩ := h
  induction f with
  | nil => exact ⟨.nil, rfl⟩
  | leaf t ht rest ih =>
    obtain ⟨hliteral, hliterals⟩ := List.forall_mem_cons.mp hliteral
    obtain ⟨hexpanded, hexpandeds⟩ := List.forall_mem_cons.mp hexpanded
    refine Balanced.append ?_ (ih hliterals hexpandeds)
    cases hm : t.symbol.isMacro with
    | true => exact hexpanded hm
    | false =>
      rw [hliteral hm]
      exact balanced_singleton ht
  | group b line line' inner rest ihInner ih =>
    rw [Forest.tokens] at hliteral hexpanded ⊢
    obtain ⟨hopener, hliteral⟩ := List.forall_mem_cons.mp hliteral
    obtain ⟨hinner, hliteral⟩ := List.forall_mem_append.mp hliteral
    obtain ⟨hcloser, hrest⟩ := List.forall_mem_cons.mp hliteral
    obtain ⟨hinner', hexpanded⟩ := List.forall_mem_append.mp (List.forall_mem_cons.mp hexpanded).2
    have h := (ihInner hinner hinner').group b line line'
    have h := h.append (ih hrest (List.forall_mem_cons.mp hexpanded).2)
    rw [List.flatMap_cons, List.flatMap_append, List.flatMap_cons, hopener rfl, hcloser rfl]
    simpa using h

end Token

/-- Brackets that are open, the innermost first, each with what follows it before the next one. -/
abbrev Spine := List (Opening × Forest)

namespace Spine

/-- The tokens as they are written. -/
def tokens : Spine → List Token
  | [] => []
  | (o, f) :: outer => tokens outer ++ ⟨.opener o.bracket, o.line⟩ :: f.tokens

/-- The brackets that are open. -/
def openings (s : Spine) : List Opening := s.map Prod.fst

variable {o : Opening} {f : Forest} {outer : Spine}

theorem tokens_leaf {t : Token} (ht : t.symbol.isBracket = false) (ts : List Token) :
    tokens ((o, f) :: outer) ++ t :: ts =
      tokens ((o, f.append (.leaf t ht .nil)) :: outer) ++ ts := by
  simp [tokens, Forest.tokens_append, Forest.tokens]

theorem tokens_closer {o' : Opening} {g : Forest} {line : Int} {ts : List Token} :
    tokens ((o, f) :: (o', g) :: outer) ++ ⟨.closer o.bracket, line⟩ :: ts =
      tokens ((o', g.append (.group o.bracket o.line line f .nil)) :: outer) ++ ts := by
  simp [tokens, Forest.tokens_append, Forest.tokens]

/-- Open brackets and more tokens: the outermost bracket is closed, or a closing bracket does not
match the innermost one, or brackets are open at the end. -/
theorem closes (o : Opening) (f : Forest) (outer : Spine) (ts : List Token) :
    (∃ g rest, Token.IsGroup g ∧ tokens ((o, f) :: outer) ++ ts = g ++ rest) ∨
      (∃ o' f' outer' b line rest, b ≠ o'.bracket ∧
        tokens ((o, f) :: outer) ++ ts =
          tokens ((o', f') :: outer') ++ ⟨.closer b, line⟩ :: rest) ∨
      ∃ o' f' outer', tokens ((o, f) :: outer) ++ ts = tokens ((o', f') :: outer') := by
  -- The tokens that were read go into the spine, which keeps the text the same all along.
  induction ts generalizing o f outer with
  | nil => exact .inr (.inr ⟨o, f, outer, List.append_nil _⟩)
  | cons t ts ih =>
    obtain ⟨y, line⟩ := t
    cases y with
    | opener b =>
      have h : tokens ((o, f) :: outer) ++ ⟨.opener b, line⟩ :: ts =
          tokens ((⟨b, line⟩, .nil) :: (o, f) :: outer) ++ ts := by simp [tokens, Forest.tokens]
      rw [h]
      exact ih _ _ _
    | closer b =>
      by_cases hb : b = o.bracket
      · subst hb
        cases outer with
        | nil =>
          exact .inl ⟨_, ts, ⟨o.bracket, o.line, line, f.tokens, ⟨f, rfl⟩, rfl⟩, by simp [tokens]⟩
        | cons p outer =>
          rw [tokens_closer]
          exact ih _ _ _
      · exact .inr (.inl ⟨o, f, outer, b, line, ts, hb, rfl⟩)
    | _ =>
      rw [tokens_leaf rfl]
      exact ih _ _ _

end Spine

/-- Nothing is asked of what is read. -/
def Vocabulary.any : Vocabulary where
  plain _ := True
  fit _ := True
  stands _ := True
  fails _ := True
  fails_of _ := trivial
  fit_of_plain _ _ := trivial
  fit_of_stands _ _ _ := trivial
  stands_of_value _ _ := trivial
  stands_number _ := trivial
  stands_switch _ := trivial
  stands_negate _ := trivial

/-- Before the second run more was reported than before the first. -/
def Link.logged (log : List Event) : Link (List Event) where
  rel l l' := l' = log ++ l

/-- What is left of an input after the tokens `ts`. -/
def Input.past (i : Input) (ts rest : List Token) : Input :=
  ⟨i.name, rest, i.fault, lineAfter i.line ts⟩

/-- The input begins with a bracket, and reading on until it is closed comes to a failure: to the
first closing bracket that does not match the innermost open one, or to the end of the input. -/
inductive Input.Breaks (i : Input) : Failure → Prop
  | mismatched {o : Opening} {f : Forest} {outer : Spine} {b : Bracket} {line : Int}
      {rest : List Token} (hb : b ≠ o.bracket)
      (hi : i.tokens = Spine.tokens ((o, f) :: outer) ++ ⟨.closer b, line⟩ :: rest) :
      i.Breaks (.inText (.mismatched o.bracket o.line b) line i.name)
  | ended {o : Opening} {f : Forest} {outer : Spine}
      (hi : i.tokens = Spine.tokens ((o, f) :: outer)) :
      i.Breaks (i.fault.getD (.inText (.endOfInput ("closing '" ++ o.bracket.closing ++ "'"))
        (lineAfter i.line i.tokens) i.name))

/-- Either a group begins an input that begins with a bracket, or it breaks. -/
theorem Input.closes {i : Input} {b : Bracket} {l : Int} {us : List Token}
    (hi : i.tokens = ⟨.opener b, l⟩ :: us) :
    (∃ g, Token.IsGroup g ∧ g <+: i.tokens) ∨ ∃ f, i.Breaks f := by
  have hstart : i.tokens = Spine.tokens [(⟨b, l⟩, Forest.nil)] ++ us := hi
  rcases Spine.closes ⟨b, l⟩ .nil [] us with ⟨g, rest, hg, hrest⟩ | hmismatched | hended
  · exact .inl ⟨g, hg, rest, (hstart.trans hrest).symm⟩
  · obtain ⟨o, f, outer, b', line, rest, hb, hrest⟩ := hmismatched
    exact .inr ⟨_, .mismatched hb (hstart.trans hrest)⟩
  · obtain ⟨o, f, outer, hrest⟩ := hended
    exact .inr ⟨_, .ended (hstart.trans hrest)⟩

namespace Expansion

section Groups

variable (reference : Token → String → ExpandM (List Token))
  (inline : Token → (i : Input) → ExpandM (Taken (List Token) i))

/-- Wherever the token stands in a text, it stands for the tokens `us`, and `es` is reported. -/
def Stands (name : String) (t : Token) (us : List Token) (es : List Event) : Prop :=
  ∀ ts fault line log, outcome (expandToken reference inline t ⟨name, ts, fault, line⟩) log =
    (.ok (us, ⟨name, ts, fault, line⟩), log ++ es)

variable {reference inline} {name : String} {fault : Option Failure} {line : Int}
  {log : List Event} {o : Opening} {outer : List Opening}

theorem stands_literal {t : Token} (ht : t.symbol.isMacro = false) :
    Stands reference inline name t [t] [] := by
  intro ts fault line log
  unfold expandToken
  rw [List.append_nil]
  split
  · simp_all [Symbol.isMacro]
  · simp_all [Symbol.isMacro]
  · rfl

/-- Puts tokens before those of an argument that was read. -/
def lead (ts : List Token) (r : Except Failure (List Token × Input) × List Event) :
    Except Failure (List Token × Input) × List Event :=
  (r.1.map fun p => (ts ++ p.1, p.2), r.2)

theorem lead_nil (r : Except Failure (List Token × Input) × List Event) : lead [] r = r := by
  rcases r with ⟨_ | _, _⟩ <;> rfl

theorem lead_lead (ts us : List Token) (r : Except Failure (List Token × Input) × List Event) :
    lead ts (lead us r) = lead (ts ++ us) r := by
  rcases r with ⟨_ | _, _⟩ <;> simp [lead, Except.map]

theorem readGroup_nil :
    outcome (readGroup reference inline o outer ⟨name, [], fault, line⟩) log =
      (.error (fault.getD
        (.inText (.endOfInput ("closing '" ++ o.bracket.closing ++ "'")) line name)), log) := by
  rw [readGroup.eq_def]
  cases fault <;> rfl

theorem readGroup_cons {t : Token} {ts us : List Token} {es : List Event}
    (ht : Stands reference inline name t us es) :
    outcome (readGroup reference inline o outer ⟨name, t :: ts, fault, line⟩) log =
      match track (o :: outer) t name with
      | .ok [] => (.ok (us, ⟨name, ts, fault, lineAfter line [t]⟩), log ++ es)
      | .ok (o :: outer) =>
        lead us (outcome (readGroup reference inline o outer ⟨name, ts, fault, lineAfter line [t]⟩)
          (log ++ es))
      | .error f => (.error f, log) := by
  obtain ⟨rest, hx, hrest⟩ := outcome_eq_ok.mp (ht ts fault (lineAfter line [t]) log)
  obtain ⟨left, hle⟩ := rest
  subst hrest
  have hexpect : (⟨name, t :: ts, fault, line⟩ : Input).expect
      ("closing '" ++ o.bracket.closing ++ "'") =
        .ok (t, ⟨⟨name, ts, fault, lineAfter line [t]⟩, Nat.lt_succ_self _⟩) := rfl
  rw [readGroup.eq_def, outcome, exec_bind, exec_lift, hexpect]
  dsimp only
  rw [exec_bind, exec_lift]
  cases track (o :: outer) t name with
  | error f => rfl
  | ok opened =>
    dsimp only
    rw [exec_bind, hx]
    cases opened with
    | nil => rfl
    | cons o outer =>
      dsimp only
      rw [exec_bind, outcome]
      simp only [Input.Less.onward]
      rcases exec (readGroup reference inline o outer ⟨name, ts, fault, lineAfter line [t]⟩)
        (log ++ es) with ⟨_ | ⟨vs, last⟩, _⟩ <;> rfl

/-- What is put in place of tokens of the text `name`: a literal token stands for itself. -/
structure Replaces (reference : Token → String → ExpandM (List Token))
    (inline : Token → (i : Input) → ExpandM (Taken (List Token) i)) (name : String)
    (ts : List Token) (σ : Token → List Token) (ε : Token → List Event) : Prop where
  literal : ∀ t ∈ ts, t.symbol.isMacro = false → σ t = [t] ∧ ε t = []
  expanded : ∀ t ∈ ts, t.symbol.isMacro → Stands reference inline name t (σ t) (ε t)

variable {σ : Token → List Token} {ε : Token → List Event}

namespace Replaces

theorem of_literal {ts : List Token} (h : ∀ t ∈ ts, t.symbol.isMacro = false) :
    Replaces reference inline name ts (fun t => [t]) fun _ => [] :=
  ⟨fun _ _ _ => ⟨rfl, rfl⟩, fun t ht hm => by simp [h t ht] at hm⟩

theorem stands {ts : List Token} (h : Replaces reference inline name ts σ ε) {t : Token}
    (ht : t ∈ ts) : Stands reference inline name t (σ t) (ε t) := by
  cases hm : t.symbol.isMacro with
  | true => exact h.expanded t ht hm
  | false =>
    obtain ⟨hσ, hε⟩ := h.literal t ht hm
    rw [hσ, hε]
    exact stands_literal hm

theorem mono {ts us : List Token} (h : Replaces reference inline name ts σ ε) (hs : us ⊆ ts) :
    Replaces reference inline name us σ ε :=
  ⟨fun t ht => h.literal t (hs ht), fun t ht => h.expanded t (hs ht)⟩

end Replaces

theorem track_closer {b : Bracket} {l l' : Int} :
    track (⟨b, l⟩ :: outer) ⟨.closer b, l'⟩ name = .ok outer := if_pos rfl

/-- A token after which a bracket is open. -/
theorem readGroup_step {t : Token} {ts us : List Token} {es : List Event} {o' : Opening}
    {outer' : List Opening} (ht : Stands reference inline name t us es)
    (htrack : track (o :: outer) t name = .ok (o' :: outer')) :
    outcome (readGroup reference inline o outer ⟨name, t :: ts, fault, line⟩) log =
      lead us (outcome (readGroup reference inline o' outer'
        ⟨name, ts, fault, lineAfter line [t]⟩) (log ++ es)) := by
  rw [readGroup_cons ht, htrack]

/-- A forest in a group is read on, and the brackets that are open stay as they are. -/
theorem readGroup_tokens (f : Forest) (ts : List Token)
    (h : Replaces reference inline name f.tokens σ ε) :
    outcome (readGroup reference inline o outer ⟨name, f.tokens ++ ts, fault, line⟩) log =
      lead (f.tokens.flatMap σ) (outcome (readGroup reference inline o outer
        ⟨name, ts, fault, lineAfter line f.tokens⟩) (log ++ f.tokens.flatMap ε)) := by
  induction f generalizing o outer line log ts with
  | nil =>
    simp only [Forest.tokens, List.flatMap_nil, List.append_nil, lead_nil]
    rfl
  | leaf t ht rest ih =>
    have htrack : track (o :: outer) t name = .ok (o :: outer) := by
      obtain ⟨y, l⟩ := t
      cases y <;> first | rfl | contradiction
    have hrest := h.mono (List.subset_cons_self t rest.tokens)
    rw [Forest.tokens, List.cons_append, readGroup_step (h.stands List.mem_cons_self) htrack,
      ih ts hrest, lead_lead, List.append_assoc]
    rfl
  | group b l l' inner rest ihInner ih =>
    have hafter := h.mono (List.subset_cons_self _ _)
    have hinner := hafter.mono (List.subset_append_left _ _)
    have hcloser := hafter.mono (List.subset_append_right _ _)
    have hrest := hcloser.mono (List.subset_cons_self _ _)
    rw [Forest.tokens, List.cons_append, List.append_assoc, List.cons_append,
      readGroup_step (h.stands List.mem_cons_self) rfl, ihInner _ hinner,
      readGroup_step (hcloser.stands List.mem_cons_self) track_closer, ih ts hrest,
      lead_lead, lead_lead, lead_lead, lineAfter_cons line _ (inner.tokens ++ _), lineAfter_append,
      lineAfter_cons _ _ rest.tokens]
    simp only [List.flatMap_cons, List.flatMap_append, List.append_assoc]

theorem readArgument_opener {b : Bracket} {l : Int} (ts : List Token) :
    outcome (readArgument reference inline ⟨name, ⟨.opener b, l⟩ :: ts, fault, line⟩) log =
      lead [⟨.opener b, l⟩] (outcome (readGroup reference inline ⟨b, l⟩ []
        ⟨name, ts, fault, lineAfter line [⟨.opener b, l⟩]⟩) log) := by
  have hexpect : (⟨name, ⟨.opener b, l⟩ :: ts, fault, line⟩ : Input).expect "directive argument" =
      .ok (⟨.opener b, l⟩,
        ⟨⟨name, ts, fault, lineAfter line [⟨.opener b, l⟩]⟩, Nat.lt_succ_self _⟩) := rfl
  rw [readArgument, outcome, exec_bind, exec_lift, hexpect]
  dsimp only
  rw [exec_bind, outcome]
  rcases exec (readGroup reference inline ⟨b, l⟩ []
    ⟨name, ts, fault, lineAfter line [⟨.opener b, l⟩]⟩) log with ⟨_ | ⟨vs, last⟩, _⟩ <;> rfl

/-- An argument that begins with the outermost of the brackets that are open, up to any token. -/
theorem readArgument_open {f : Forest} {spine : Spine} (ts : List Token)
    (h : Replaces reference inline name (Spine.tokens ((o, f) :: spine)) σ ε) :
    outcome (readArgument reference inline
        ⟨name, Spine.tokens ((o, f) :: spine) ++ ts, fault, line⟩) log =
      lead ((Spine.tokens ((o, f) :: spine)).flatMap σ)
        (outcome (readGroup reference inline o (Spine.openings spine)
          ⟨name, ts, fault, lineAfter line (Spine.tokens ((o, f) :: spine))⟩)
            (log ++ (Spine.tokens ((o, f) :: spine)).flatMap ε)) := by
  induction spine generalizing o f ts with
  | nil =>
    obtain ⟨hσ, hε⟩ := h.literal ⟨.opener o.bracket, o.line⟩ List.mem_cons_self rfl
    have hf : Replaces reference inline name f.tokens σ ε := h.mono (List.subset_cons_self _ _)
    rw [Spine.tokens, Spine.tokens, List.nil_append, List.cons_append, readArgument_opener,
      readGroup_tokens f ts hf, lead_lead, List.flatMap_cons, List.flatMap_cons, hσ, hε,
      List.nil_append]
    rfl
  | cons p spine ih =>
    obtain ⟨o', f'⟩ := p
    have hspine := h.mono (List.subset_append_left _ _)
    have hopener := h.mono (List.subset_append_right _ _)
    have hf := hopener.mono (List.subset_cons_self _ _)
    rw [Spine.tokens, List.append_assoc, List.cons_append, ih _ hspine,
      readGroup_step (hopener.stands List.mem_cons_self) rfl, readGroup_tokens f ts hf,
      lead_lead, lead_lead, lineAfter_append, lineAfter_cons _ _ f.tokens]
    simp only [List.flatMap_append, List.flatMap_cons, List.append_assoc]
    rfl

/-! ### What comes of an argument -/

variable {i : Input}

theorem readArgument_closed {g rest : List Token} (hg : Token.IsGroup g)
    (h : Replaces reference inline i.name g σ ε) (hi : i.tokens = g ++ rest) :
    outcome (readArgument reference inline i) log =
      (.ok (g.flatMap σ, i.past g rest), log ++ g.flatMap ε) := by
  obtain ⟨b, l, l', _, ⟨f, rfl⟩, rfl⟩ := hg
  obtain ⟨name, ts, fault, line⟩ := i
  obtain rfl : ts = Spine.tokens [(⟨b, l⟩, f)] ++ ⟨.closer b, l'⟩ :: rest := by
    simpa [Spine.tokens] using hi
  have hsplit : (⟨.opener b, l⟩ : Token) :: (f.tokens ++ [⟨.closer b, l'⟩]) =
      Spine.tokens [(⟨b, l⟩, f)] ++ [⟨.closer b, l'⟩] := by simp [Spine.tokens]
  rw [hsplit] at h ⊢
  have hopen := h.mono (List.subset_append_left _ _)
  have hcloser := h.stands (List.mem_append_right _ (List.mem_singleton_self _))
  rw [readArgument_open _ hopen, readGroup_cons hcloser, track_closer]
  simp only [lead, Input.past, List.flatMap_append, List.flatMap_singleton, List.append_assoc,
    lineAfter_append]
  rfl

theorem readArgument_breaks {f : Failure} (h : ∀ t ∈ i.tokens, t.symbol.isMacro = false)
    (hf : i.Breaks f) : outcome (readArgument reference inline i) log = (.error f, log) := by
  obtain ⟨name, ts, fault, line⟩ := i
  cases hf with
  | @mismatched o f outer b l rest hb hi =>
    obtain rfl : ts = _ := hi
    have hopen (t : Token) (ht : t ∈ Spine.tokens ((o, f) :: outer)) : t.symbol.isMacro = false :=
      h t (List.mem_append_left _ ht)
    have htrack : track (o :: outer.openings) ⟨.closer b, l⟩ name =
        .error (.inText (.mismatched o.bracket o.line b) l name) := if_neg hb
    rw [readArgument_open _ (.of_literal hopen), readGroup_cons (stands_literal rfl), htrack]
    simp [lead, Except.map]
  | @ended o f outer hi =>
    obtain rfl : ts = Spine.tokens ((o, f) :: outer) ++ [] := hi.trans (List.append_nil _).symm
    have hopen (t : Token) (ht : t ∈ Spine.tokens ((o, f) :: outer)) : t.symbol.isMacro = false :=
      h t (List.mem_append_left _ ht)
    rw [readArgument_open _ (.of_literal hopen), readGroup_nil]
    simp [lead, Except.map]

end Groups

/-! ### References in an argument -/

/-- What was reported before does not matter to a reference. -/
theorem exec_reference {c : Context} {n : Nat} {t : Token} {name : String}
    (ht : t.symbol = .reference name) {source : String} {us : List Token} {es : List Event}
    (h : exec (reference c n t source) [] = (.ok us, es)) (log : List Event) :
    exec (reference c n t source) log = (.ok us, log ++ es) := by
  have hsetup : c.setup.Alike (.logged log) .any c.setup := by
    refine .of_settings rfl (.inl rfl) (fun _ _ _ _ _ _ => ?_) (fun e _ => ?_) fun _ _ => trivial
    · exact ⟨fun _ _ => trivial, fun _ _ _ => ⟨fun _ _ => trivial, fun _ _ => trivial⟩⟩
    · refine .changing (fun l l' h => ?_) fun _ ha => by contradiction
      rw [show l' = log ++ l from h]
      exact List.append_assoc ..
  have haround : c.surroundings.Alike (.logged log) .any c.surroundings := by
    refine ⟨fun x _ line => .refl (fun ts _ => ⟨rfl, ?_⟩) fun _ _ => trivial,
      fun line x _ => .refl (fun _ _ => ⟨rfl, trivial⟩) fun _ _ => trivial⟩
    dsimp only
    split
    · exact ⟨fun _ _ => trivial, fun _ _ => trivial⟩
    · trivial
  -- Both runs are of one reference, so that only what was reported before tells them apart.
  have hfollows : Follows (.logged log) (reference c n t source) (reference c n t source) _ :=
    (Follows.expansion c c hsetup haround (.inl rfl)).1 t source name ht trivial
  have hends := hfollows.ends [] log (List.append_nil log).symm
  rw [h] at hends
  generalize exec (reference c n t source) log = q at hends ⊢
  cases hends with
  | ok hsame hlog => rw [hsame.1, show _ = log ++ es from hlog]

/-- What a token of the text `name` is replaced by in an argument: a reference by the tokens it
denotes, whose brackets nest and are closed, and a literal token by itself. -/
def Context.Puts (c : Context) (n : Nat) (name : String) (t : Token) (us : List Token) : Prop :=
  match t.symbol with
  | .reference _ => (exec (reference c n t name) []).1 = .ok us ∧ Token.Balanced us
  | .directive _ => False
  | _ => us = [t]

variable {c : Context} {n : Nat}

theorem Context.Puts.literal {name : String} {t : Token} {us : List Token}
    (h : c.Puts n name t us) (ht : t.symbol.isMacro = false) : us = [t] := by
  unfold Puts at h
  split at h <;> simp_all [Symbol.isMacro]

theorem Context.Puts.expanded {name : String} {t : Token} {us : List Token}
    (h : c.Puts n name t us) (ht : t.symbol.isMacro) :
    Stands (reference c n) (inline c n) name t us (exec (reference c n t name) []).2 ∧
      Token.Balanced us := by
  obtain ⟨y, l⟩ := t
  cases y with
  | reference x =>
    obtain ⟨hus, hb⟩ := h
    refine ⟨fun ts fault line log => ?_, hb⟩
    have hx := exec_reference rfl (Prod.ext hus rfl) log
    rw [expandToken, outcome, exec_bind, hx]
    rfl
  | directive => contradiction
  | _ => contradiction

/-- What the references of a group denote is put in their place. -/
theorem readArgument_replaced {i : Input} {log : List Event} {g rest : List Token}
    {σ : Token → List Token} (hg : Token.IsGroup g) (hi : i.tokens = g ++ rest)
    (hσ : ∀ t ∈ g, c.Puts n i.name t (σ t)) :
    ∃ events, outcome (readArgument (reference c n) (inline c n) i) log =
      (.ok (g.flatMap σ, i.past g rest), log ++ events) := by
  have hg' : Replaces (reference c n) (inline c n) i.name g σ fun t =>
      if t.symbol.isMacro then (exec (reference c n t i.name) []).2 else [] := by
    refine ⟨fun t ht hm => ⟨(hσ t ht).literal hm, if_neg (by simp [hm])⟩, fun t ht hm => ?_⟩
    rw [if_pos hm]
    exact ((hσ t ht).expanded hm).1
  exact ⟨_, readArgument_closed hg hg' hi⟩

end Expansion

open Expansion

theorem Token.IsGroup.flatMap {g : List Token} (hg : IsGroup g) {σ : Token → List Token}
    (hliteral : ∀ t ∈ g, t.symbol.isMacro = false → σ t = [t])
    (hexpanded : ∀ t ∈ g, t.symbol.isMacro → Balanced (σ t)) : IsGroup (g.flatMap σ) := by
  obtain ⟨b, l, l', us, hus, rfl⟩ := hg
  have hσ (t : Token) (ht : t ∈ us) :
      t ∈ (⟨.opener b, l⟩ : Token) :: (us ++ [⟨.closer b, l'⟩]) := by simp [ht]
  refine ⟨b, l, l', us.flatMap σ,
    hus.flatMap (fun t ht => hliteral t (hσ t ht)) fun t ht => hexpanded t (hσ t ht), ?_⟩
  rw [List.flatMap_cons, List.flatMap_append, List.flatMap_singleton, hliteral _ (by simp) rfl,
    hliteral ⟨.closer b, l'⟩ (by simp) rfl]
  rfl

namespace Expansion

/-- An argument that begins with an opening bracket. Without references and directives it is read
if and only if some group begins the tokens; that group is the argument, no other group begins them,
and the rest is left. Otherwise there is a closing bracket that does not match the innermost open
one, or the input ends in a bracket. A group with references is read as well if the brackets of what
they denote nest and are closed; that is put in their place, and the result is a group. -/
theorem readArgument_bracketed (c : Context) (n : Nat) (i : Input) (log : List Event) {b : Bracket}
    {l : Int} {us : List Token} (hi : i.tokens = ⟨.opener b, l⟩ :: us) :
    ((∀ t ∈ i.tokens, t.symbol.isMacro = false) →
      ((∃ p u, outcome (readArgument (reference c n) (inline c n) i) log = (.ok p, u)) ↔
        ∃ g, Token.IsGroup g ∧ g <+: i.tokens) ∧
      (∀ g rest, Token.IsGroup g → i.tokens = g ++ rest →
        outcome (readArgument (reference c n) (inline c n) i) log = (.ok (g, i.past g rest), log) ∧
        ∀ g', Token.IsGroup g' → g' <+: i.tokens → g' = g) ∧
      ((¬∃ g, Token.IsGroup g ∧ g <+: i.tokens) → ∃ f, i.Breaks f ∧
        outcome (readArgument (reference c n) (inline c n) i) log = (.error f, log))) ∧
    ∀ g rest σ, Token.IsGroup g → i.tokens = g ++ rest → (∀ t ∈ g, c.Puts n i.name t (σ t)) →
      Token.IsGroup (g.flatMap σ) ∧ ∃ events,
        outcome (readArgument (reference c n) (inline c n) i) log =
          (.ok (g.flatMap σ, i.past g rest), log ++ events) := by
  refine ⟨fun hliteral => ?_, fun g rest σ hg hrest hσ => ⟨?_, readArgument_replaced hg hrest hσ⟩⟩
  · have hclosed (g rest : List Token) (hg : Token.IsGroup g) (hrest : i.tokens = g ++ rest) :
        outcome (readArgument (reference c n) (inline c n) i) log =
          (.ok (g, i.past g rest), log) := by
      have hg' (t : Token) (ht : t ∈ g) : t.symbol.isMacro = false :=
        hliteral t (hrest ▸ List.mem_append_left rest ht)
      rw [readArgument_closed hg (.of_literal hg') hrest]
      simp
    refine ⟨⟨?_, ?_⟩, fun g rest hg hrest => ⟨hclosed g rest hg hrest, fun g' hg' h' => ?_⟩, ?_⟩
    · rintro ⟨p, u, hok⟩
      refine (Input.closes hi).resolve_right ?_
      rintro ⟨f, hf⟩
      rw [readArgument_breaks hliteral hf] at hok
      cases hok
    · rintro ⟨g, hg, rest, hrest⟩
      exact ⟨_, _, hclosed g rest hg hrest.symm⟩
    · exact hg'.eq_of_prefix hg h' ⟨rest, hrest.symm⟩
    · intro hnone
      obtain ⟨f, hf⟩ := (Input.closes hi).resolve_left hnone
      exact ⟨f, hf, readArgument_breaks hliteral hf⟩
  · exact hg.flatMap (fun t ht => (hσ t ht).literal) fun t ht hm => ((hσ t ht).expanded hm).2

/-- A context in which `x` is a group. -/
def bracedContext : Context :=
  ⟨bareSetup, [⟨[.primitive ⟨"x", false, 1, 1⟩
    [⟨.opener .brace, 1⟩, ⟨.number (.int 2), 1⟩, ⟨.closer .brace, 1⟩]], false⟩]⟩

/-- A group with a reference to a group, and one with a group in it; a token follows each. -/
theorem readArgument_nested :
    (∃ events, outcome (readArgument (reference bracedContext 1) (inline bracedContext 1)
        (.ofTokens "t" [⟨.opener .round, 2⟩, ⟨.reference "x", 2⟩, ⟨.closer .round, 3⟩,
          ⟨.comma, 4⟩])) [] =
      (.ok ([⟨.opener .round, 2⟩, ⟨.opener .brace, 1⟩, ⟨.number (.int 2), 1⟩, ⟨.closer .brace, 1⟩,
        ⟨.closer .round, 3⟩], ⟨"t", [⟨.comma, 4⟩], none, 3⟩), [] ++ events)) ∧
    outcome (readArgument (reference bracedContext 1) (inline bracedContext 1)
        (.ofTokens "t" [⟨.opener .round, 2⟩, ⟨.opener .square, 2⟩, ⟨.closer .square, 2⟩,
          ⟨.closer .round, 3⟩, ⟨.comma, 4⟩])) [] =
      (.ok ([⟨.opener .round, 2⟩, ⟨.opener .square, 2⟩, ⟨.closer .square, 2⟩, ⟨.closer .round, 3⟩],
        ⟨"t", [⟨.comma, 4⟩], none, 3⟩), []) := by
  constructor
  · let σ (t : Token) : List Token := match t.symbol with
      | .reference _ => [⟨.opener .brace, 1⟩, ⟨.number (.int 2), 1⟩, ⟨.closer .brace, 1⟩]
      | _ => [t]
    have hg : Token.IsGroup [⟨.opener .round, 2⟩, ⟨.reference "x", 2⟩, ⟨.closer .round, 3⟩] :=
      ⟨.round, 2, 3, [⟨.reference "x", 2⟩], Token.balanced_singleton rfl, rfl⟩
    have hx : bracedContext.Puts 1 "t" ⟨.reference "x", 2⟩ (σ ⟨.reference "x", 2⟩) :=
      ⟨by cbv, .group .brace 1 1 (Token.balanced_singleton rfl)⟩
    refine ((readArgument_bracketed bracedContext 1 _ [] rfl).2 _ [⟨.comma, 4⟩] σ hg rfl ?_).2
    simp only [List.forall_mem_cons, List.not_mem_nil, false_implies, implies_true, and_true]
    exact ⟨rfl, hx, rfl⟩
  · have hinner : Token.Balanced [⟨.opener .square, 2⟩, ⟨.closer .square, 2⟩] :=
      .group .square 2 2 ⟨.nil, rfl⟩
    exact (((readArgument_bracketed bracedContext 1 _ [] rfl).1 (by decide)).2.1 _ [⟨.comma, 4⟩]
      ⟨.round, 2, 3, _, hinner, rfl⟩ rfl).1

end Expansion

end CaseDict
