import CaseDict.Proofs.Regime
/-! # Regimes of literal values

In a literal regime a value may hold every token that is no reference and no directive, on a line
that a failure may name. Such a regime need not speak of expansion: whatever is expanded comes to
such tokens (`Regime.Literal.expands`). -/

namespace CaseDict

open Expansion Statement

namespace Regime

variable {guard : Guard} {setup : Setup}

/-- Values are literal, and so are the texts that values are expanded from, where the guard lets them
pass. -/
structure Literal (R : Regime guard setup) : Prop where
  value_iff {ts : List Token} :
    R.value ts ↔ ∀ t ∈ ts, t.symbol.isMacro = false ∧ R.line t.line
  named {name text : String} (hg : guard (.variable name text) = false) :
    R.source (Surroundings.textName name) ∧
      ∀ f ∈ (Lexer.lex 1 text.toList).fault, R.fails (f.failure (Surroundings.textName name))
  opened {p : Path} {text : String} (hg : guard (.fragment p) = false)
    (hp : setup.files.readText p = .ok text) :
    R.source p.text ∧ (∀ t ∈ (Lexer.lex 1 text.toList).tokens, R.line t.line) ∧
      ∀ f ∈ (Lexer.lex 1 text.toList).fault, R.placed (f.failure p.text)
  computing {expression : String} {n : Number} (hg : guard (.expression expression) = false)
    (hc : Calc.calculate expression = .ok (.number n)) (hn : n.writable = false) :
    R.fails .numeralTooLong

namespace Literal

variable {R : Regime guard setup}

theorem nil (P : R.Literal) : R.value [] := P.value_iff.mpr (List.forall_mem_nil _)

theorem append (P : R.Literal) {ts us : List Token} (ht : R.value ts) (hu : R.value us) :
    R.value (ts ++ us) :=
  P.value_iff.mpr (List.forall_mem_append.mpr ⟨P.value_iff.mp ht, P.value_iff.mp hu⟩)

theorem singleton (P : R.Literal) {t : Token} (ht : t.symbol.isMacro = false)
    (hl : R.line t.line) : R.value [t] :=
  P.value_iff.mpr (List.forall_mem_singleton.mpr ⟨ht, hl⟩)

/-! ### Sequences of tokens -/

section Sequences

variable {reference : Token → String → ExpandM (List Token)}
  {inline : Token → (i : Input) → ExpandM (Taken (List Token) i)}

/-- References and directives come to values. -/
structure Replaces (R : Regime guard setup) (reference : Token → String → ExpandM (List Token))
    (inline : Token → (i : Input) → ExpandM (Taken (List Token) i)) : Prop where
  reference {t : Token} (ht : R.line t.line) {source : String} (hs : R.source source) :
    Ensures R.expansion (reference t source) R.value
  inline {t : Token} (ht : R.line t.line) {i : Input} (hi : R.Begun i) :
    Ensures R.expansion (inline t i) fun p => R.value p.1 ∧ R.Begun p.2.input

variable (P : R.Literal) (E : Replaces R reference inline) {i : Input}

include P E

theorem expandToken (hi : R.Begun i) {t : Token} (ht : R.line t.line) :
    Ensures R.expansion (expandToken reference inline t i)
      fun p => R.value p.1 ∧ R.Begun p.2.input := by
  unfold Expansion.expandToken
  split
  · exact .bind (E.reference ht hi.source) fun ts hts => .pure ⟨hts, hi⟩
  · exact E.inline ht hi
  · next hr hd =>
    refine .pure ⟨P.singleton ?_ ht, hi⟩
    cases hs : t.symbol with
    | reference name => exact absurd hs (hr name)
    | directive name => exact absurd hs (hd name)
    | _ => rfl

theorem expandAll (hi : R.Knows i) :
    Ensures R.expansion (expandAll reference inline i) R.value := by
  induction hn : i.size using Nat.strongRecOn generalizing i with
  | ind n ih =>
    rw [expandAll.eq_def]
    refine .bind (hi.next fails_expansion) fun found hnext => ?_
    rcases found with _ | ⟨t, rest⟩
    · exact .pure P.nil
    · obtain ⟨ht, hrest⟩ := hi.after hnext
      refine .bind (P.expandToken E hrest ht) fun ⟨ts, more⟩ ⟨hts, hmore⟩ => ?_
      refine .bind (ih _ (hn ▸ Nat.lt_of_le_of_lt more.le rest.lt) hmore.toKnows rfl) fun us hus => ?_
      exact .pure (P.append hts hus)

/-- The lines on which brackets were opened. -/
abbrev Opened (R : Regime guard setup) (opened : List Opening) : Prop :=
  ∀ o ∈ opened, R.line o.line

omit P E in
theorem track {opened : List Opening} (ho : Opened R opened) {t : Token} (ht : R.line t.line)
    {source : String} (hs : R.source source) :
    Ensures R.expansion (liftM (track opened t source)) (Opened R) := by
  refine .lift (fun opened' h => ?_) fun f h _ => ?_
  all_goals unfold Expansion.track at h
  · split at h
    · cases h
      exact List.forall_mem_cons.mpr ⟨ht, ho⟩
    · unfold close at h
      split at h
      · contradiction
      · split at h
        · cases h
          exact (List.forall_mem_cons.mp ho).2
        · contradiction
    · cases h
      exact ho
  · split at h
    · contradiction
    · unfold close at h
      split at h
      · cases h
        exact R.weaken (R.inText ht hs)
      · split at h
        · contradiction
        · cases h
          exact R.weaken (R.inText ht hs)
    · contradiction

theorem readGroup {o : Opening} {outer : List Opening} (ho : Opened R (o :: outer))
    (hi : R.Begun i) : Ensures R.expansion (readGroup reference inline o outer i)
      fun p => R.value p.1 ∧ R.Begun p.2.input := by
  induction hn : i.size using Nat.strongRecOn generalizing i o outer with
  | ind n ih =>
    rw [readGroup.eq_def]
    refine .bind (hi.expect fails_expansion _) fun ⟨t, rest⟩ ⟨ht, hrest⟩ => ?_
    refine .bind (track ho ht hi.source) fun opened hopened => ?_
    refine .bind (P.expandToken E hrest ht) fun ⟨ts, more⟩ ⟨hts, hmore⟩ => ?_
    cases opened with
    | nil => exact .pure ⟨hts, hmore⟩
    | cons o outer =>
      refine .bind (ih _ (hn ▸ Nat.lt_of_le_of_lt more.le rest.lt) hopened hmore rfl)
        fun ⟨us, last⟩ ⟨hus, hlast⟩ => ?_
      exact .pure ⟨P.append hts hus, hlast⟩

theorem readArgument (hi : R.Begun i) :
    Ensures R.expansion (readArgument reference inline i)
      fun p => R.value p.1 ∧ R.Begun p.2.input := by
  unfold Expansion.readArgument
  refine .bind (hi.expect fails_expansion _) ?_
  rintro ⟨t, rest⟩ ⟨ht, hrest⟩
  have hexpand : Ensures R.expansion (do
      let p ← Expansion.expandToken reference inline t rest.input
      return (p.1, (rest.onward p.2).toRest)) fun p => R.value p.1 ∧ R.Begun p.2.input :=
    .bind (P.expandToken E hrest ht) fun _ h => .pure h
  dsimp only
  split
  · exact .throw fun _ => R.weaken (R.inText ht hi.source)
  · exact .throw fun _ => R.weaken (R.inText ht hi.source)
  · next b hb =>
    have hopened : Opened R [⟨b, t.line⟩] := List.forall_mem_singleton.mpr ht
    refine .bind (P.readGroup E hopened hrest) ?_
    rintro ⟨ts, more⟩ ⟨hts, hmore⟩
    exact .pure ⟨P.append (P.singleton (by rw [hb]; rfl) ht) hts, hmore⟩
  · exact hexpand

theorem readValue {opened : List Opening} (ho : Opened R opened) (hi : R.Knows i) :
    Ensures R.expansion (readValue reference inline opened i)
      fun p => R.value p.1.1 ∧ R.Knows p.2.input := by
  induction hn : i.size using Nat.strongRecOn generalizing i opened with
  | ind n ih =>
    rw [readValue.eq_def]
    refine .bind (hi.next fails_expansion) fun found hnext => ?_
    rcases found with _ | ⟨t, rest⟩
    · cases opened with
      | nil => exact .pure ⟨P.nil, hi⟩
      | cons o outer =>
        exact .throw fun _ => R.weaken (R.inText (ho o List.mem_cons_self) hi.source)
    · obtain ⟨ht, hrest⟩ := hi.after hnext
      dsimp only
      split
      · exact .pure ⟨P.nil, hrest.toKnows⟩
      · refine .bind (track ho ht hi.source) fun opened' hopened => ?_
        refine .bind (P.expandToken E hrest ht) fun ⟨ts, more⟩ ⟨hts, hmore⟩ => ?_
        refine .bind (ih _ (hn ▸ Nat.lt_of_le_of_lt more.le rest.lt) hopened hmore.toKnows rfl)
          fun ⟨⟨us, endLine⟩, last⟩ ⟨hus, hlast⟩ => ?_
        exact .pure ⟨P.append hts hus, hlast⟩

end Sequences

/-! ### References and directives in values -/

section Expansion

variable {frames : List (Frame Entry)} {i : Input}

/-- An environment text that the guard lets pass has tokens on the line of the reference. -/
theorem environmentTokens (P : R.Literal) {name text : String}
    (hg : guard (.variable name text) = false) {line : Int} (hl : R.line line) :
    Settles R.fails (fun ts => ∀ t ∈ ts, R.line t.line)
      (Surroundings.environmentTokens name text line) := by
  unfold Surroundings.environmentTokens Lexer.tokens
  obtain ⟨-, hfault⟩ := P.named hg
  rcases hlex : Lexer.lex 1 text.toList with ⟨ts, _ | f⟩
  · change Settles R.fails _ (if ts.any (·.symbol == .terminator) then _ else _)
    split
    · exact .error (R.unplaced hl)
    · refine .ok fun t ht => ?_
      obtain ⟨t, -, rfl⟩ := List.mem_map.mp ht
      exact hl
  · exact .error (hfault f (by rw [hlex]; rfl))

/-- The tokens that a reference stands for are literal, or they are of the environment. -/
theorem tokens (P : R.Literal) (hf : R.Surrounds frames) {name : String} {line : Int}
    (hl : R.line line)
    (hg : Guarded.meetVariable guard ⟨setup, frames⟩ name = .ok ()) :
    Settles R.fails (fun ts => R.value ts ∨
        R.source (Surroundings.textName name) ∧ ∀ t ∈ ts, R.line t.line)
      ((Context.surroundings ⟨setup, frames⟩).tokens name line) := by
  unfold Guarded.meetVariable at hg
  unfold Surroundings.tokens
  split
  · next hfind => exact .ok (.inl (found_value hf hfind))
  · exact .error (R.unplaced hl)
  · next hfind =>
    rw [hfind] at hg
    split
    · next text htext =>
      rw [htext] at hg
      have hpass : guard (.variable name text) = false := by
        dsimp only [Guarded.meet] at hg
        split at hg
        · contradiction
        · next h => exact Bool.eq_false_iff.mpr h
      have hsource := (P.named hpass).1
      exact (P.environmentTokens hpass hl).mono fun ts hts => .inr ⟨hsource, hts⟩
    · exact .error (R.unplaced hl)

theorem calculate (P : R.Literal) (hi : R.Begun i) {t : Token} (ht : R.line t.line) :
    Ensures R.expansion (Guarded.calculate guard ⟨setup, frames⟩ t i)
      fun p => R.value p.1 ∧ R.Begun p.2.input := by
  unfold Guarded.calculate
  refine .bind (hi.expect fails_expansion _) fun ⟨⟨y, line⟩, rest⟩ ⟨_, hrest⟩ => ?_
  dsimp -zeta only
  extract_lets evaluate
  have hevaluate (source : String) : Ensures R.expansion (evaluate source)
      fun p => R.value p.1 ∧ R.Begun p.2.input := by
    refine .bind (expandingText ht source) fun expression _ => ?_
    refine .bind (meet fails_expansion _) fun _ hg => ?_
    cases hc : Calc.calculate expression with
    | error why => exact .throw fun _ => R.weaken (R.inText ht hi.source)
    | ok s =>
      rcases Calc.calculate_eq_ok hc with rfl | rfl | ⟨n, rfl⟩
      · exact .pure ⟨P.singleton rfl ht, hrest⟩
      · exact .pure ⟨P.singleton rfl ht, hrest⟩
      · dsimp only
        split
        · exact .pure ⟨P.singleton rfl ht, hrest⟩
        · next hn => exact .throw fun _ => P.computing hg hc (Bool.eq_false_iff.mpr hn)
  cases y with
  | quoted source | word source =>
    exact .bind (.pure rfl) fun _ (h : source = _) => h ▸ hevaluate source
  | number n => exact .bind (.pure rfl) fun _ (h : n.text = _) => h ▸ hevaluate n.text
  | _ => exact .throw_bind fun _ => R.weaken (R.inText ht hi.source)

theorem meetVariable (name : String) :
    Ensures R.expansion (liftM (Guarded.meetVariable guard ⟨setup, frames⟩ name))
      fun _ => Guarded.meetVariable guard ⟨setup, frames⟩ name = .ok () := by
  refine .lift (fun _ h => h) fun f h _ => ?_
  have hcases : Guarded.meetVariable guard ⟨setup, frames⟩ name = .ok () ∨
      ∃ f, guard.Stops f ∧ Guarded.meetVariable guard ⟨setup, frames⟩ name = .error f :=
    Guarded.meetVariable_cases name
  rw [h] at hcases
  obtain h | ⟨f', hf, h⟩ := hcases
  · contradiction
  · cases h
    exact R.weaken (R.stopped hf)

/-- What references and directives in values come to, which may nest to any depth. -/
theorem replaces (P : R.Literal) (hf : R.Surrounds frames) (budget : Nat) :
    Replaces R (Guarded.reference guard ⟨setup, frames⟩ budget)
      (Guarded.inline guard ⟨setup, frames⟩ budget) := by
  induction budget with
  | zero =>
    exact ⟨fun ht _ hs => .throw fun _ => R.weaken (R.inText ht hs),
      fun ht _ hi => .throw fun _ => R.weaken (R.inText ht hi.source)⟩
  | succ n ih =>
    constructor
    · intro t ht source hs
      unfold Guarded.reference
      refine .bind (meetVariable t.symbol.value) fun _ hg => ?_
      refine .bind (.settled (P.tokens hf ht hg) fun _ _ => id) fun ts hts => ?_
      split
      · next hmacro =>
        obtain hts | ⟨hname, hlines⟩ := hts
        · obtain ⟨u, hu, hm⟩ := List.any_eq_true.mp hmacro
          exact absurd hm (by simp [(P.value_iff.mp hts u hu).1])
        · exact P.expandAll ih ⟨hlines, fun _ h => by contradiction, hname⟩
      · next hmacro =>
        refine .pure (hts.elim id fun h => P.value_iff.mpr fun u hu => ⟨?_, h.2 u hu⟩)
        exact Bool.eq_false_iff.mpr fun h => hmacro (List.any_eq_true.mpr ⟨u, hu, h⟩)
    · intro t ht i hi
      unfold Guarded.inline
      refine .bind (directive fails_expansion ht hi.source) fun d _ => ?_
      cases d with
      | calculate => exact P.calculate hi ht
      | negate =>
        refine .bind (P.readArgument ih hi) ?_
        rintro ⟨argument, rest⟩ ⟨-, hrest⟩
        dsimp only
        split
        · exact .pure ⟨P.singleton rfl ht, hrest⟩
        · exact .throw fun _ => R.weaken (R.inText ht hi.source)
      | includeFile optional =>
        refine .bind (locate hi optional ht) ?_
        rintro ⟨found, rest⟩ ⟨hfound, hrest⟩
        cases found with
        | none => exact .pure ⟨P.nil, hrest⟩
        | some p =>
          dsimp only
          refine .bind (meet fails_expansion _) fun _ hg => ?_
          refine .bind (openFile (hfound p rfl)) fun file hfile => ?_
          obtain ⟨text, hread, rfl⟩ := hfile
          obtain ⟨hsource, hlines, hfault⟩ := P.opened hg hread
          exact .bind (P.expandAll ih (.ofText hsource hlines hfault)) fun ts hts =>
            .pure ⟨hts, hrest⟩
      | _ => exact .throw fun _ => R.weaken (R.inText ht hi.source)

/-- Expansion in a literal regime is as it should be. -/
theorem expands (P : R.Literal) : R.Expands where
  value hf _ hi budget := P.readValue (P.replaces hf budget) (List.forall_mem_nil _) hi.toKnows
  argument hf _ hi budget := (P.readArgument (P.replaces hf budget) hi).mono fun _ h => h.2

end Expansion

end Literal

end Regime

end CaseDict
