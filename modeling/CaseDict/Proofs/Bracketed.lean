import CaseDict.Proofs.DepthBound
/-! # Brackets in values

The brackets in a value nest and are closed, and terminators stand only inside brackets
(`Reader.bracketed_of_read`), provided that this is so in the texts of the environment and in the files that
values include. While a value is read only the brackets written in it are counted. What references
and directives bring does not matter to that count: it leaves the open brackets as they are, and so
does the argument that a directive takes. -/

namespace CaseDict

open Expansion Statement

/-- The brackets that are open after a symbol, the innermost first. There are none if the symbol
closes no bracket that is innermost, or if it is a terminator outside brackets. -/
def Symbol.brackets (opened : List Bracket) (s : Symbol) : Option (List Bracket) :=
  match s, opened with
  | .opener b, _ => some (b :: opened)
  | .closer b, o :: outer => if b = o then some outer else none
  | .closer _, [] | .terminator, [] => none
  | _, _ => some opened

namespace Token

/-- The brackets that are open after tokens. -/
def brackets (opened : List Bracket) : List Token → Option (List Bracket)
  | [] => some opened
  | t :: ts => (t.symbol.brackets opened).bind (brackets · ts)

/-- Brackets nest and are closed, and terminators stand only inside them. -/
def Bracketed (ts : List Token) : Prop := brackets [] ts = some []

instance (ts : List Token) : Decidable (Bracketed ts) := inferInstanceAs (Decidable (_ = _))

variable {opened opened' : List Bracket} {ts us : List Token}

theorem brackets_append (opened : List Bracket) (ts us : List Token) :
    brackets opened (ts ++ us) = (brackets opened ts).bind (brackets · us) := by
  induction ts generalizing opened with
  | nil => rfl
  | cons t ts ih =>
    simp only [List.cons_append, brackets, Option.bind_assoc]
    exact congrArg _ (funext ih)

theorem brackets_singleton (opened : List Bracket) (t : Token) :
    brackets opened [t] = t.symbol.brackets opened := by
  unfold brackets
  cases t.symbol.brackets opened <;> rfl

/-- Brackets further out are left open. -/
theorem brackets_outer (h : brackets opened ts = some opened') (outer : List Bracket) :
    brackets (opened ++ outer) ts = some (opened' ++ outer) := by
  induction ts generalizing opened with
  | nil => simp_all [brackets]
  | cons t ts ih =>
    obtain ⟨mid, hmid, h⟩ := Option.bind_eq_some_iff.mp h
    have hstep : t.symbol.brackets (opened ++ outer) = some (mid ++ outer) := by
      obtain ⟨y, line⟩ := t
      cases y <;> cases opened <;> simp_all [Symbol.brackets] <;> grind
    rw [brackets, hstep]
    exact ih h

/-- Bracketed tokens leave the open brackets as they are. -/
theorem Bracketed.brackets (h : Bracketed ts) (opened : List Bracket) :
    brackets opened ts = some opened := brackets_outer h opened

theorem brackets_congr (h : ts.map Token.symbol = us.map Token.symbol) (opened : List Bracket) :
    Token.brackets opened ts = Token.brackets opened us := by
  induction ts generalizing us opened with
  | nil =>
    obtain rfl := List.map_eq_nil_iff.mp h.symm
    rfl
  | cons t ts ih =>
    obtain ⟨u, us, rfl, hu, hus⟩ := List.map_eq_cons_iff.mp h.symm
    simp only [Token.brackets, hu]
    exact congrArg _ (funext fun _ => ih hus.symm _)

theorem bracketed_literal {t : Token} (h : ∀ opened, t.symbol.brackets opened = some opened) :
    Bracketed [t] := (brackets_singleton [] t).trans (h [])

end Token

/-- Whatever may happen but for what comes of it. -/
def Contract.lax (σ : Type) : Contract σ := { fails _ _ := True }

/-! ### Sequences of tokens -/

namespace Bracketing

/-- What is left of the input has the brackets of the input. -/
def Spares (i : Input) (rest : i.Rest) : Prop :=
  ∀ opened, Token.brackets opened rest.input.tokens = Token.brackets opened i.tokens

/-- References and directives come to bracketed tokens. -/
structure Replaces (reference : Token → String → ExpandM (List Token))
    (inline : Token → (i : Input) → ExpandM (Taken (List Token) i)) : Prop where
  reference (t : Token) (source : String) :
    Ensures (.lax _) (reference t source) Token.Bracketed
  inline (t : Token) (i : Input) :
    Ensures (.lax _) (inline t i) fun p => Token.Bracketed p.1 ∧ Spares i p.2

variable {reference : Token → String → ExpandM (List Token)}
  {inline : Token → (i : Input) → ExpandM (Taken (List Token) i)}

theorem lifted {α : Type} (r : Except Failure α) :
    Ensures (.lax (List Event)) (liftM r) fun a => r = .ok a :=
  .lift (fun _ => id) fun _ _ _ => trivial

/-- The brackets that are tracked are those of the tokens. -/
theorem track_brackets {opened opened' : List Opening} {t : Token} {source : String}
    (h : track opened t source = .ok opened') (hend : ¬(t.symbol = .terminator ∧ opened.isEmpty)) :
    t.symbol.brackets (opened.map Opening.bracket) = some (opened'.map Opening.bracket) := by
  obtain ⟨y, line⟩ := t
  unfold track at h
  cases y with
  | opener b =>
    cases h
    rfl
  | closer b =>
    cases opened with
    | nil => contradiction
    | cons o outer =>
      dsimp only [close] at h
      split at h
      · next hb =>
        cases h
        simp [Symbol.brackets, hb]
      · contradiction
  | terminator =>
    cases opened with
    | nil => simp at hend
    | cons o outer =>
      cases h
      rfl
  | _ =>
    cases h
    rfl

section Sequences

variable (E : Replaces reference inline) {i : Input}

include E

/-- What a token stands for opens and closes the brackets that the token opens and closes. -/
theorem expandToken (t : Token) (i : Input) :
    Ensures (.lax _) (expandToken reference inline t i) fun p =>
      (∀ opened, Token.brackets opened p.1 = t.symbol.brackets opened) ∧ Spares i p.2 := by
  obtain ⟨y, line⟩ := t
  have hself : Spares i i.unread := fun _ => rfl
  cases y with
  | reference name =>
    refine .bind (E.reference _ i.name) fun ts hts => .pure ⟨fun opened => ?_, hself⟩
    exact hts.brackets opened
  | directive name => exact (E.inline _ i).mono fun p hp => ⟨hp.1.brackets, hp.2⟩
  | _ => exact .pure ⟨fun opened => Token.brackets_singleton opened _, hself⟩

/-- What an input stands for has the brackets of the input. -/
theorem expandAll (i : Input) : Ensures (.lax _) (expandAll reference inline i) fun ts =>
    ∀ opened, Token.brackets opened ts = Token.brackets opened i.tokens := by
  induction hn : i.size using Nat.strongRecOn generalizing i with
  | ind n ih =>
    rw [expandAll.eq_def]
    refine .bind (lifted i.next) fun found hnext => ?_
    rcases found with _ | ⟨t, rest⟩
    · exact .pure fun opened => by rw [Input.tokens_of_end hnext]
    · refine .bind (expandToken E t rest.input) fun ⟨ts, more⟩ ⟨hts, hmore⟩ => ?_
      refine .bind (ih _ (hn ▸ Nat.lt_of_le_of_lt more.le rest.lt) _ rfl) fun us hus => .pure ?_
      intro opened
      rw [Token.brackets_append, hts, Input.tokens_of_next hnext, Token.brackets]
      exact congrArg _ (funext fun opened => (hus opened).trans (hmore opened))

/-- An argument that does not begin with a bracket leaves the brackets of the input. -/
theorem readArgument (i : Input) : Ensures (.lax _) (readArgument reference inline i) fun p =>
    (∃ t ∈ p.1.head?, t.symbol.isOpener) ∨ Spares i p.2 := by
  unfold Expansion.readArgument
  refine .bind (lifted (i.expect _)) ?_
  rintro ⟨t, rest⟩ hexpect
  have htokens := Input.tokens_of_expect hexpect
  have hexpand (ht : ∀ opened, t.symbol.brackets opened = some opened) : Ensures (.lax _) (do
      let p ← Expansion.expandToken reference inline t rest.input
      return (p.1, (rest.onward p.2).toRest)) fun p =>
        (∃ t ∈ p.1.head?, t.symbol.isOpener) ∨ Spares i p.2 := by
    refine .bind (expandToken E t rest.input) fun _ h => ?_
    refine .pure (.inr fun opened => (h.2 opened).trans ?_)
    rw [htokens, Token.brackets, ht]
    rfl
  obtain ⟨y, line⟩ := t
  cases y with
  | terminator => exact .throw fun _ => trivial
  | closer => exact .throw fun _ => trivial
  | opener b =>
    exact .bind (.trivially (fun _ => trivial) (fun _ _ => trivial) fun _ => trivial)
      fun _ (_ : True) => .pure (.inl ⟨_, rfl, rfl⟩)
  | _ => exact hexpand fun _ => rfl

/-- A value has no brackets but those that were open. -/
theorem readValue (opened : List Opening) (i : Input) :
    Ensures (.lax _) (readValue reference inline opened i) fun p =>
      Token.brackets (opened.map Opening.bracket) p.1.1 = some [] := by
  induction hn : i.size using Nat.strongRecOn generalizing i opened with
  | ind n ih =>
    rw [readValue.eq_def]
    refine .bind (lifted i.next) fun found hnext => ?_
    rcases found with _ | ⟨t, rest⟩
    · cases opened with
      | nil => exact .pure rfl
      | cons o outer => exact .throw fun _ => trivial
    dsimp only
    split
    · next h =>
      have hnil : opened = [] := List.isEmpty_iff.mp h.2
      exact .pure (by rw [hnil]; rfl)
    · next hend =>
      refine .bind (lifted (track opened t i.name)) fun opened' htrack => ?_
      refine .bind (expandToken E t rest.input) fun ⟨ts, more⟩ ⟨hts, hmore⟩ => ?_
      refine .bind (ih _ (hn ▸ Nat.lt_of_le_of_lt more.le rest.lt) opened' _ rfl)
        fun ⟨⟨us, endLine⟩, last⟩ hus => .pure ?_
      rw [Token.brackets_append, hts, track_brackets htrack hend]
      exact hus

end Sequences

end Bracketing

/-- The text is lexed to its end, and its tokens are bracketed. -/
def Lexer.Bracketed (text : String) : Prop :=
  (lex 1 text.toList).fault = none ∧ Token.Bracketed (lex 1 text.toList).tokens

instance (text : String) : Decidable (Lexer.Bracketed text) :=
  inferInstanceAs (Decidable (_ = none ∧ _))

/-- The texts of the environment are bracketed. -/
def Settings.HasBracketed (s : Settings) : Prop :=
  ∀ name text, s.environment.lookup name = some text → Lexer.Bracketed text

/-- A guard against files in values that are not bracketed. -/
def Guard.unbracketed (files : Files) : Guard
  | .fragment p =>
    match files.readText p with
    | .ok text => !decide (Lexer.Bracketed text)
    | .error _ => false
  | _ => false

namespace Bracketing

/-! ### References and directives in values -/

section Expansion

variable {setup : Setup} {frames : List (Frame Entry)}

theorem tokens (henv : setup.settings.HasBracketed)
    (hf : ∀ f ∈ frames, Entry.AllCarry Token.Bracketed f.entries) (name : String) (line : Int)
    {ts : List Token} (h : (Context.surroundings ⟨setup, frames⟩).tokens name line = .ok ts) :
    Token.Bracketed ts := by
  unfold Surroundings.tokens at h
  split at h
  · next hfind =>
    cases h
    exact Entry.carries_primitive.mp
      (Lookup.scopedEntry_has Entry.carries_hereditary.inner hf hfind)
  · contradiction
  · split at h
    · next text htext =>
      obtain ⟨us, hlex, rfl⟩ := Surroundings.environmentTokens_eq_ok h
      have htext := (henv _ _ (Surroundings.lookup_of_environmentText? htext)).2
      rw [hlex] at htext
      refine (Token.brackets_congr ?_ []).trans htext
      rw [List.map_map]
      rfl
    · contradiction

theorem calculate (c : Context) (t : Token) (i : Input) :
    Ensures (.lax _) (Guarded.calculate (Guard.unbracketed setup.files) c t i)
      fun p => Token.Bracketed p.1 ∧ Spares i p.2 := by
  unfold Guarded.calculate
  refine .bind (lifted (i.expect _)) fun ⟨⟨y, line⟩, rest⟩ hexpect => ?_
  have htokens := Input.tokens_of_expect hexpect
  dsimp -zeta only
  extract_lets evaluate
  have hevaluate (hy : ∀ opened, y.brackets opened = some opened) (source : String) :
      Ensures (.lax _) (evaluate source) fun p => Token.Bracketed p.1 ∧ Spares i p.2 := by
    have hspares : Spares i rest.toRest := fun opened => by
      rw [htokens, Token.brackets, hy]
      rfl
    refine .bind (lifted _) fun expression _ => .bind (lifted _) fun _ _ => ?_
    cases hc : Calc.calculate expression with
    | error why => exact .throw fun _ => trivial
    | ok s =>
      rcases Calc.calculate_eq_ok hc with rfl | rfl | ⟨n, rfl⟩
      · exact .pure ⟨Token.bracketed_literal fun _ => rfl, hspares⟩
      · exact .pure ⟨Token.bracketed_literal fun _ => rfl, hspares⟩
      · dsimp only
        split
        · exact .pure ⟨Token.bracketed_literal fun _ => rfl, hspares⟩
        · exact .throw fun _ => trivial
  cases y with
  | quoted source | word source =>
    exact .bind (.pure rfl) fun _ (h : source = _) => h ▸ hevaluate (fun _ => rfl) source
  | number n => exact .bind (.pure rfl) fun _ (h : n.text = _) => h ▸ hevaluate (fun _ => rfl) n.text
  | _ => exact .throw_bind fun _ => trivial

theorem locate (c : Context) (optional : Bool) (t : Token) (i : Input) :
    Ensures (.lax _) (Guarded.locate (Guard.unbracketed setup.files) c optional t i)
      fun p => Spares i p.2 := by
  unfold Guarded.locate
  refine .bind (lifted (i.expect _)) fun ⟨⟨y, line⟩, rest⟩ hexpect => ?_
  have htokens := Input.tokens_of_expect hexpect
  dsimp -zeta only
  extract_lets find
  have hfind (hy : ∀ opened, y.brackets opened = some opened) (raw : String) :
      Ensures (.lax _) (find raw) fun p => Spares i p.2 := by
    have hspares : Spares i rest.toRest := fun opened => by
      rw [htokens, Token.brackets, hy]
      rfl
    have hany {α : Type} (m : ExpandM α) : Ensures (.lax _) m fun _ => True :=
      .trivially (fun _ => trivial) (fun _ _ => trivial) fun _ => trivial
    refine .bind (hany _) fun name _ => .bind (hany _) fun places _ => .bind (hany _) fun found _ => ?_
    cases found with
    | some p => exact .pure hspares
    | none =>
      dsimp only
      split
      · exact .pure hspares
      · exact .bind (hany _) fun _ _ => .throw fun _ => trivial
  cases y with
  | quoted raw | word raw =>
    exact .bind (.pure rfl) fun _ (h : raw = _) => h ▸ hfind (fun _ => rfl) raw
  | _ => exact .throw_bind fun _ => trivial

/-- A file that the guard lets pass is bracketed. -/
theorem opened (c : Context) {p : Path}
    (hmet : Guarded.meet (Guard.unbracketed c.setup.files) (.fragment p) = .ok ()) :
    Ensures (.lax _) (openFile c p) fun file => Token.Bracketed file.tokens := by
  unfold openFile
  refine .bind (lifted _) fun text htext => .pure ?_
  unfold Guarded.meet at hmet
  split at hmet
  · contradiction
  · next hg =>
    have hbracketed : Lexer.Bracketed text := by simpa [Guard.unbracketed, htext] using hg
    exact hbracketed.2

theorem replaces (henv : setup.settings.HasBracketed)
    (hf : ∀ f ∈ frames, Entry.AllCarry Token.Bracketed f.entries) (budget : Nat) :
    Replaces (Guarded.reference (Guard.unbracketed setup.files) ⟨setup, frames⟩ budget)
      (Guarded.inline (Guard.unbracketed setup.files) ⟨setup, frames⟩ budget) := by
  induction budget with
  | zero => exact ⟨fun _ _ => .throw fun _ => trivial, fun _ _ => .throw fun _ => trivial⟩
  | succ n ih =>
    constructor
    · intro t source
      unfold Guarded.reference
      refine .bind (lifted _) fun _ _ => .bind (lifted _) fun ts hts => ?_
      have hbracketed := tokens henv hf _ _ hts
      split
      · exact (expandAll ih _).mono fun us hus => (hus []).trans hbracketed
      · exact .pure hbracketed
    · intro t i
      unfold Guarded.inline
      refine .bind (lifted _) fun d _ => ?_
      cases d with
      | calculate => exact calculate _ t i
      | negate =>
        refine .bind (readArgument ih i) ?_
        rintro ⟨argument, rest⟩ hargument
        dsimp only
        split
        · refine .pure ⟨Token.bracketed_literal fun _ => rfl, hargument.resolve_left ?_⟩
          rintro ⟨u, hu, hopener⟩
          cases hu
          contradiction
        · exact .throw fun _ => trivial
      | includeFile optional =>
        refine .bind (locate _ optional t i) ?_
        rintro ⟨found, rest⟩ hrest
        cases found with
        | none => exact .pure ⟨rfl, hrest⟩
        | some p =>
          dsimp only
          refine .bind (lifted _) fun _ hmet => .bind (opened _ hmet) fun file hfile => ?_
          exact .bind (expandAll ih file) fun ts hts => .pure ⟨(hts []).trans hfile, hrest⟩
      | _ => exact .throw fun _ => trivial

end Expansion

end Bracketing

namespace Regime

/-- Values are bracketed. -/
def bracketed (setup : Setup) : Regime (Guard.unbracketed setup.files) setup where
  line _ := True
  source _ := True
  value := Token.Bracketed
  entry _ := Entry.Carries Token.Bracketed
  fails _ := True
  placed _ := True
  line_after := id
  weaken := id
  stopped _ := trivial
  within _ _ := trivial
  inText _ _ := trivial
  unplaced _ := trivial
  keyword _ _ _ _ := trivial
  copying _ _ _ := trivial
  removing _ _ := trivial
  searching _ _ := trivial
  opened _ _ := ⟨trivial, fun _ _ => trivial, fun _ _ => trivial⟩
  nothing := rfl
  lines _ _ _ := trivial
  primitive _ hts := Entry.carries_primitive.mpr hts
  dictionary _ _ hes := Entry.carries_dictionary.mpr hes
  valued hp := Entry.carries_primitive.mp hp
  inner hd := Entry.carries_dictionary.mp hd
  remade _ _ hes := Entry.carries_dictionary.mpr hes
  copies _ hes e he := (hes e he).elim fun _ h => h

theorem expands_bracketed {setup : Setup} (henv : setup.settings.HasBracketed) :
    (bracketed setup).Expands where
  value hf i _ budget := by
    have hreplaces := Bracketing.replaces henv (fun f hmem e he => (hf f hmem e he).elim fun _ h => h)
      budget
    exact (Bracketing.readValue hreplaces [] i).mono fun p hp =>
      ⟨hp, fun _ _ => trivial, fun _ _ => trivial, trivial⟩
  argument _ _ _ _ := .trivially (fun _ => trivial) (fun _ _ => trivial)
    fun _ => ⟨⟨fun _ _ => trivial, fun _ _ => trivial, trivial⟩, trivial⟩

end Regime

namespace Reader

/-- In every value of a dictionary that was read brackets nest and are closed, and terminators stand
only inside brackets, if this is so in the texts of the environment and in the files that are included
in values. -/
theorem bracketed_of_read {setup : Setup} (henv : setup.settings.HasBracketed) {i : Input}
    (hfiles : ¬setup.ComesTo (Guard.unbracketed setup.files) i) {e : Entry}
    (hread : (read setup i).1 = .ok e) : ∀ v ∈ e.values, Token.Bracketed v := by
  have hknows : (Regime.bracketed setup).Knows i :=
    ⟨fun _ _ => trivial, fun _ _ => trivial, trivial⟩
  have hbracketed := Regime.read (Regime.expands_bracketed henv) hknows hfiles
  rw [hread] at hbracketed
  obtain ⟨h, es, rfl, hes⟩ | _ := hbracketed
  exact Entry.carries_dictionary.mpr hes

/-- A value with a group, in which a terminator and a text of the environment stand. -/
def grouping : Input := .ofTokens "t" [⟨.word "x", 1⟩, ⟨.opener .round, 1⟩, ⟨.reference "A", 1⟩,
  ⟨.terminator, 1⟩, ⟨.closer .round, 1⟩, ⟨.terminator, 1⟩]

theorem bracketed_of_grouping : ∃ e : Entry,
    (read (environmentSetup [("A", "[,]")]) grouping).1 = .ok e ∧ e.values ≠ [] ∧
      ∀ v ∈ e.values, Token.Bracketed v := by
  have henv : (environmentSetup [("A", "[,]")]).settings.HasBracketed := fun name text h => by
    have htext : text = "[,]" := by
      rw [environmentSetup, List.lookup_cons] at h
      split at h
      · exact (Option.some.inj h).symm
      · contradiction
    have hlex : Lexer.lex 1 "[,]".toList =
        ⟨[⟨.opener .square, 1⟩, ⟨.comma, 1⟩, ⟨.closer .square, 1⟩], none⟩ :=
      Lexer.lex_of_lexWithin (n := 4) rfl
    rw [htext, Lexer.Bracketed, hlex]
    exact ⟨rfl, rfl⟩
  have hread : (read (environmentSetup [("A", "[,]")]) grouping).1 =
      .ok (.dictionary ⟨"t", false, 1, 1⟩ [.primitive ⟨"x", false, 1, 1⟩
        [⟨.opener .round, 1⟩, ⟨.opener .square, 1⟩, ⟨.comma, 1⟩, ⟨.closer .square, 1⟩,
          ⟨.terminator, 1⟩, ⟨.closer .round, 1⟩]]) := by cbv
  have hfiles : ¬(environmentSetup [("A", "[,]")]).ComesTo
      (Guard.unbracketed (environmentSetup [("A", "[,]")]).files) grouping := by
    have hguarded : (Guarded.read (Guard.unbracketed (environmentSetup [("A", "[,]")]).files)
        (environmentSetup [("A", "[,]")]) grouping).1 =
          (read (environmentSetup [("A", "[,]")]) grouping).1 := by
      rw [hread]
      cbv
    rw [Setup.ComesTo, hguarded, hread]
    exact fun h => by cases h
  exact ⟨_, hread, by decide, bracketed_of_read henv hfiles hread⟩

end Reader

end CaseDict
