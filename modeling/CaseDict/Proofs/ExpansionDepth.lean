import CaseDict.Proofs.Acceptance
import CaseDict.Proofs.Failures
import Mathlib.Logic.Function.Iterate
/-! # How deep values expand

What a value takes to be expanded is a number of references inside of one another (`Denotes`), or of
negations before a number. It is expanded if that number is within the limit and fails with an
overflow if it is not, never one too early or too late (`Expansion.Denotes.expanded`,
`Expansion.inline_negations`). -/

namespace CaseDict

open Expansion Statement

/-- If it fits, the run gives a good result; if not, it fails with an error of the class. -/
structure WithinLimit {α σ : Type} (c : ErrorClass) (fits : Prop) (good : α → σ → Prop)
    (r : Except Failure α × σ) : Prop where
  gives : fits → ∃ a s, r = (.ok a, s) ∧ good a s
  fails : ¬fits → ∃ f s, r = (.error f, s) ∧ f.class? = some c

namespace WithinLimit

variable {α β σ : Type} {c : ErrorClass} {p q : Prop} {good : α → σ → Prop}
  {good' : β → σ → Prop} {r : Except Failure α × σ} {s : σ}

theorem ok {a : α} (h : good a s) : WithinLimit c True good (.ok a, s) :=
  ⟨fun _ => ⟨a, s, rfl, h⟩, fun hn => absurd trivial hn⟩

theorem error {f : Failure} (h : f.class? = some c) : WithinLimit c False good (.error f, s) :=
  ⟨False.elim, fun _ => ⟨f, s, rfl, h⟩⟩

theorem congr (h : WithinLimit c p good r) (hpq : q ↔ p) : WithinLimit c q good r :=
  ⟨fun hq => h.gives (hpq.mp hq), fun hq => h.fails fun hp => hq (hpq.mpr hp)⟩

theorem imp {good' : α → σ → Prop} (h : WithinLimit c p good r)
    (hgood : ∀ a s, good a s → good' a s) : WithinLimit c p good' r :=
  ⟨fun hp => (h.gives hp).imp fun a => .imp fun s hr => ⟨hr.1, hgood a s hr.2⟩, h.fails⟩

theorem map {g : α → β} (h : WithinLimit c p good r) (hg : ∀ a s, good a s → good' (g a) s) :
    WithinLimit c p good' (r.1.map g, r.2) := by
  refine ⟨fun hp => ?_, fun hp => ?_⟩
  · obtain ⟨a, s, rfl, hgood⟩ := h.gives hp
    exact ⟨g a, s, rfl, hg a s hgood⟩
  · obtain ⟨f, s, rfl, hf⟩ := h.fails hp
    exact ⟨f, s, rfl, hf⟩

/-- What fits one part of a run and the rest of it fits both. -/
theorem andThen {r' : Except Failure β × σ} (h : WithinLimit c p good r)
    (hfails : ∀ f s, r = (.error f, s) → ∃ f' s', r' = (.error f', s') ∧ f'.class? = f.class?)
    (hok : ∀ a s, r = (.ok a, s) → good a s → WithinLimit c q good' r') :
    WithinLimit c (p ∧ q) good' r' := by
  constructor
  · rintro ⟨hp, hq⟩
    obtain ⟨a, s, hr, hgood⟩ := h.gives hp
    exact (hok a s hr hgood).gives hq
  · intro hn
    by_cases hp : p
    · obtain ⟨a, s, hr, hgood⟩ := h.gives hp
      exact (hok a s hr hgood).fails fun hq => hn ⟨hp, hq⟩
    · obtain ⟨f, s, hr, hf⟩ := h.fails hp
      obtain ⟨f', s', hr', hf'⟩ := hfails f s hr
      exact ⟨f', s', hr', hf'.trans hf⟩

end WithinLimit

/-! ### Names that denote nothing -/

namespace Lookup

variable {ε : Type} {view : Inspection ε} {frames : List (Frame ε)}

theorem follow_empty (h : ∀ f ∈ frames, f.entries = []) (everywhere : Bool) (path : List String) :
    follow view frames everywhere path = none := by
  induction path generalizing frames everywhere with
  | nil => rfl
  | cons name path ih =>
    rw [follow.eq_def]
    dsimp only
    split
    · refine ih (fun f hf => h f ?_) false
      have houtward := List.mem_of_mem_drop ((List.dropWhile_sublist _).subset hf)
      exact (List.dropWhile_sublist _).subset houtward
    · cases frames with
      | nil => rfl
      | cons f frames =>
        have hfind (g : Frame ε) (hg : g ∈ f :: frames) : find view name g.entries = none := by
          rw [h g hg]
          rfl
        have houtward : findOutward view name (f :: frames) = none :=
          List.findSome?_eq_none_iff.mpr fun g hg => hfind g hg
        simp only [houtward, hfind f List.mem_cons_self]
        exact ite_self _

/-- In dictionaries without entries a scoped name denotes nothing. -/
theorem scopedEntry_empty (h : ∀ f ∈ frames, f.entries = []) (name : String) :
    scopedEntry view frames name = none := by
  unfold scopedEntry
  split
  · refine follow_empty (fun f hf => h f ?_) false _
    exact List.mem_of_getLast? (Option.mem_toList.mp hf)
  · exact follow_empty h true _

end Lookup

namespace Expansion

/-! ### Tokens one after the other -/

section Sequences

variable {reference : Token → String → ExpandM (List Token)}
  {inline : Token → (i : Input) → ExpandM (Taken (List Token) i)}
  {name : String} {fault : Option Failure} {line : Int} {log : List Event} {t : Token}
  {ts : List Token}

theorem exec_expandAll_nil :
    exec (expandAll reference inline ⟨name, [], none, line⟩) log = (.ok [], log) := by
  rw [expandAll.eq_def]
  rfl

theorem exec_expandAll_cons :
    exec (expandAll reference inline ⟨name, t :: ts, fault, line⟩) log =
      match outcome (expandToken reference inline t ⟨name, ts, fault, lineAfter line [t]⟩) log with
      | (.ok (us, j), log') => ((exec (expandAll reference inline j) log').1.map (us ++ ·),
          (exec (expandAll reference inline j) log').2)
      | (.error f, log') => (.error f, log') := by
  rw [expandAll.eq_def]
  unfold outcome
  simp only [exec_bind, exec_lift, Input.next, Input.after, lineAfter, List.foldl]
  rcases exec (expandToken reference inline t _) log with ⟨_ | ⟨us, more⟩, log'⟩
  · rfl
  simp only [Except.map, Input.Less.onward]
  rcases exec (expandAll reference inline more.input) log' with ⟨_ | vs, log''⟩ <;> rfl

theorem outcome_expandToken_plain (ht : t.symbol.isMacro = false) {i : Input} :
    outcome (expandToken reference inline t i) log = (.ok ([t], i), log) := by
  unfold expandToken
  split <;> first | rfl | simp_all [Symbol.isMacro]

theorem outcome_expandToken_reference {a : String} {l : Int} {i : Input} :
    outcome (expandToken reference inline ⟨.reference a, l⟩ i) log =
      ((exec (reference ⟨.reference a, l⟩ i.name) log).1.map (·, i),
        (exec (reference ⟨.reference a, l⟩ i.name) log).2) := by
  unfold outcome expandToken
  dsimp only
  rw [exec_bind]
  rcases exec (reference ⟨.reference a, l⟩ i.name) log with ⟨_ | us, log'⟩ <;> rfl

/-- A reference or directive in a value. -/
theorem readValue_macro (ht : t.symbol.isMacro = true) {opened : List Opening} :
    outcome (readValue reference inline opened ⟨name, t :: ts, fault, line⟩) log =
      match outcome (expandToken reference inline t ⟨name, ts, fault, lineAfter line [t]⟩) log with
      | (.ok (us, j), log') => prepend us (outcome (readValue reference inline opened j) log')
      | (.error f, log') => (.error f, log') := by
  have hterminator : ¬(t.symbol = .terminator ∧ opened.isEmpty = true) := by
    rintro ⟨h, -⟩
    rw [h] at ht
    contradiction
  have htrack : track opened t name = .ok opened := by
    unfold track
    split <;> simp_all [Symbol.isMacro]
  rw [readValue.eq_def]
  unfold outcome
  simp only [exec_bind, exec_lift, Input.next, if_neg hterminator, htrack, Input.after, lineAfter,
    List.foldl]
  rcases exec (expandToken reference inline t _) log with ⟨_ | ⟨us, more⟩, log'⟩
  · rfl
  simp only [Except.map, Input.Less.onward]
  rcases exec (readValue reference inline opened more.input) log' with
    ⟨_ | ⟨⟨vs, endLine⟩, last⟩, log''⟩ <;> rfl

end Sequences

/-! ### References to the environment -/

/-- In the environment the symbols stand for others, which takes that many references inside of one
another. A chain of `n` variables, of which each but the last is a reference to the next, takes
`n`. -/
inductive Denotes (environment : List (String × String)) : Nat → List Symbol → List Symbol → Prop
  | nil : Denotes environment 0 [] []
  | plain {d : Nat} {s : Symbol} {ss us : List Symbol} (hs : s.isMacro = false)
      (h : Denotes environment d ss us) : Denotes environment d (s :: ss) (s :: us)
  | named {d d' : Nat} {a text : String} {ts : List Token} {us ss vs : List Symbol}
      (hname : Text.isIdentifier a = true) (htext : environment.lookup a = some text)
      (hlex : Lexer.lex 1 text.toList = ⟨ts, none⟩) (hts : ∀ t ∈ ts, t.symbol ≠ .terminator)
      (hus : Denotes environment d (ts.map Token.symbol) us) (h : Denotes environment d' ss vs) :
      Denotes environment (max (d + 1) d') (.reference a :: ss) (us ++ vs)

namespace Denotes

variable {environment : List (String × String)} {d : Nat} {ss us : List Symbol} {c : Context}

theorem of_plain (h : Denotes environment d ss us) (hs : ∀ s ∈ ss, s.isMacro = false) :
    d = 0 ∧ us = ss := by
  induction h with
  | nil => exact ⟨rfl, rfl⟩
  | plain _ _ ih =>
    obtain ⟨rfl, rfl⟩ := ih fun s hs' => hs s (List.mem_cons_of_mem _ hs')
    exact ⟨rfl, rfl⟩
  | named => exact absurd (hs _ List.mem_cons_self) (by simp [Symbol.isMacro])

/-- A variable that is a reference to another one takes one more. -/
theorem chain {a b text : String} {l : Int} (hname : Text.isIdentifier a = true)
    (htext : environment.lookup a = some text)
    (hlex : Lexer.lex 1 text.toList = ⟨[⟨.reference b, l⟩], none⟩)
    (h : Denotes environment d [.reference b] us) : Denotes environment (d + 1) [.reference a] us := by
  have hchain := named hname htext hlex (by simp) h .nil
  rwa [List.append_nil, Nat.max_zero] at hchain

/-- A reference to a variable, if what its text stands for is expanded. -/
theorem outcome_reference {a text : String} {ts : List Token} (n : Nat) (l : Int)
    (source : String) (log : List Event) (hframes : ∀ f ∈ c.frames, f.entries = [])
    (hname : Text.isIdentifier a = true)
    (htext : c.setup.settings.environment.lookup a = some text)
    (hlex : Lexer.lex 1 text.toList = ⟨ts, none⟩) (hts : ∀ t ∈ ts, t.symbol ≠ .terminator)
    (hus : Denotes environment d (ts.map Token.symbol) us)
    (hall : ∀ n, WithinLimit .expansionOverflow (d ≤ n)
      (fun vs log' => vs = us.map (⟨·, l⟩) ∧ log' = log)
      (exec (expandAll (reference c n) (inline c n)
        (.ofTokens (Surroundings.textName a) ((ts.map Token.symbol).map (⟨·, l⟩)))) log)) :
    WithinLimit .expansionOverflow (d + 1 ≤ n) (fun vs log' => vs = us.map (⟨·, l⟩) ∧ log' = log)
      (exec (reference c n ⟨.reference a, l⟩ source) log) := by
  have htokens : c.surroundings.tokens a l = .ok ((ts.map Token.symbol).map (⟨·, l⟩)) := by
    have hfind : c.surroundings.find? a = none := Lookup.scopedEntry_empty hframes a
    have hany : ts.any (·.symbol == .terminator) = false := by simpa using hts
    have henvironment : c.surroundings.environmentText? a = some text :=
      (if_pos hname).trans htext
    rw [Surroundings.tokens, hfind, henvironment]
    simp only [Surroundings.environmentTokens, Lexer.tokens, hlex, List.map_map]
    exact if_neg (hany ▸ Bool.false_ne_true)
  cases n with
  | zero =>
    rw [reference, exec_throw]
    exact (WithinLimit.error rfl).congr (by simp)
  | succ n =>
    rw [reference, exec_bind, exec_lift]
    dsimp only [Symbol.value]
    rw [htokens]
    dsimp only
    split
    · exact (hall n).congr (by omega)
    · next hmacro =>
      obtain ⟨rfl, rfl⟩ := hus.of_plain (by simpa [Symbol.isMacro] using hmacro)
      exact (WithinLimit.ok ⟨rfl, rfl⟩).congr (by simp)

/-- **Symbols are expanded exactly if the limit allows as many references as they take.** -/
theorem expanded (hframes : ∀ f ∈ c.frames, f.entries = [])
    (h : Denotes c.setup.settings.environment d ss us) (n : Nat) (name : String) (l line : Int)
    (log : List Event) :
    WithinLimit .expansionOverflow (d ≤ n) (fun vs log' => vs = us.map (⟨·, l⟩) ∧ log' = log)
      (exec (expandAll (reference c n) (inline c n) ⟨name, ss.map (⟨·, l⟩), none, line⟩) log) := by
  induction h generalizing n name line with
  | nil =>
    rw [List.map_nil, exec_expandAll_nil]
    exact (WithinLimit.ok ⟨rfl, rfl⟩).congr (by simp)
  | plain hs _ ih =>
    rw [List.map_cons, List.map_cons, exec_expandAll_cons, outcome_expandToken_plain hs]
    refine (ih n name _).map fun vs log' hgood => ?_
    obtain ⟨rfl, rfl⟩ := hgood
    exact ⟨rfl, rfl⟩
  | @named d d' a text ts us ss vs hname htext hlex hts hus _ ihus ih =>
    have hreference := outcome_reference n l name log hframes hname htext hlex hts
      hus fun n => ihus n _ 0
    rw [List.map_cons, exec_expandAll_cons, outcome_expandToken_reference]
    refine (hreference.andThen (q := d' ≤ n) (fun f s hr => ?_) fun us' s hr hgood => ?_).congr
      Nat.max_le
    · rw [hr]
      exact ⟨f, s, rfl, rfl⟩
    · obtain ⟨rfl, rfl⟩ := hgood
      rw [hr]
      refine (ih n name _).map fun vs' log' hgood => ?_
      obtain ⟨rfl, rfl⟩ := hgood
      exact ⟨List.map_append.symm, rfl⟩

end Denotes

/-! ### Negations -/

section Negations

variable {c : Context} {name : String} {fault : Option Failure} {log : List Event}

theorem outcome_readArgument {reference : Token → String → ExpandM (List Token)}
    {inline : Token → (i : Input) → ExpandM (Taken (List Token) i)} {t : Token} {ts : List Token}
    {line : Int} (ht : t.symbol.isMacro = true ∨ ∃ x, t.symbol = .number x) :
    outcome (readArgument reference inline ⟨name, t :: ts, fault, line⟩) log =
      outcome (expandToken reference inline t ⟨name, ts, fault, lineAfter line [t]⟩) log := by
  have hexpect : Input.expect ⟨name, t :: ts, fault, line⟩ "directive argument" =
      .ok (t, ⟨Input.after ⟨name, t :: ts, fault, line⟩ t ts, Input.size_after_lt rfl⟩) := rfl
  unfold outcome readArgument
  rw [exec_bind, exec_lift, hexpect]
  dsimp only
  split
  · next h => simp [h, Symbol.isMacro] at ht
  · next h => simp [h, Symbol.isMacro] at ht
  · next h => simp [h, Symbol.isMacro] at ht
  · rw [exec_bind]
    simp only [Input.after, lineAfter, List.foldl]
    rcases exec (expandToken reference inline t _) log with ⟨_ | ⟨us, more⟩, log'⟩ <;> rfl

/-- What a negation comes to after its argument. -/
theorem outcome_inline_negate (hneg : c.setup.registry.find? "neg" = some .negate) {n : Nat}
    {l : Int} {i : Input} : outcome (inline c (n + 1) ⟨.directive "neg", l⟩ i) log =
      match outcome (readArgument (reference c n) (inline c n) i) log with
      | (.ok ([⟨.number x, _⟩], j), log') => (.ok ([⟨.number x.negate, l⟩], j), log')
      | (.ok (ts, _), log') => (.error (misuse ⟨.directive "neg", l⟩ i
          (.numberExpected (Token.spaced ts))), log')
      | (.error f, log') => (.error f, log') := by
  have hget : c.setup.registry.get "neg" l (some i.name) = .ok .negate := by
    rw [Registry.get, hneg]
  unfold outcome
  rw [inline, exec_bind, exec_lift]
  dsimp only [Symbol.value]
  rw [hget]
  dsimp only
  rw [exec_bind]
  rcases exec (readArgument (reference c n) (inline c n) i) log with ⟨_ | ⟨ts, rest⟩, log'⟩
  · rfl
  rcases ts with _ | ⟨⟨y, l'⟩, _ | ⟨t, ts⟩⟩ <;> first | rfl | (cases y <;> rfl)

/-- **Negations before a number are carried out exactly if the limit allows as many.** -/
theorem inline_negations (hneg : c.setup.registry.find? "neg" = some .negate) {k : Nat}
    {x : Number} {ts : List Token} (hts : ts.map Token.symbol =
      List.replicate k (.directive "neg") ++ [.number x]) (n : Nat) (rest : List Token)
    (l line : Int) :
    WithinLimit .expansionOverflow (k + 1 ≤ n)
      (fun p log' => p = ([⟨.number (Number.negate^[k + 1] x), l⟩],
        ⟨name, rest, fault, lineAfter line ts⟩) ∧ log' = log)
      (outcome (inline c n ⟨.directive "neg", l⟩ ⟨name, ts ++ rest, fault, line⟩) log) := by
  induction k generalizing n ts l line with
  | zero =>
    obtain ⟨⟨_, l'⟩, us, rfl, rfl, hus⟩ := List.map_eq_cons_iff.mp hts
    obtain rfl := List.map_eq_nil_iff.mp hus
    cases n with
    | zero => exact (WithinLimit.error rfl).congr (by simp)
    | succ n =>
      rw [outcome_inline_negate hneg, List.singleton_append, outcome_readArgument (.inr ⟨x, rfl⟩),
        outcome_expandToken_plain rfl]
      exact (WithinLimit.ok ⟨rfl, rfl⟩).congr (by simp)
  | succ k ih =>
    obtain ⟨⟨_, l'⟩, us, rfl, rfl, hus⟩ := List.map_eq_cons_iff.mp hts
    cases n with
    | zero => exact (WithinLimit.error rfl).congr (by simp)
    | succ n =>
      rw [outcome_inline_negate hneg, List.cons_append, outcome_readArgument (.inl rfl)]
      refine ((ih hus n l' (lineAfter line [⟨.directive "neg", l'⟩])).andThen (q := True)
        (fun f s hr => ?_) fun p s hr hgood => ?_).congr (by simp)
      · unfold expandToken
        dsimp only
        rw [hr]
        exact ⟨f, s, rfl, rfl⟩
      · obtain ⟨rfl, rfl⟩ := hgood
        unfold expandToken
        dsimp only
        rw [hr]
        refine .ok ⟨?_, rfl⟩
        rw [Function.iterate_succ_apply' _ (k + 1)]
        rfl

end Negations

end Expansion

/-! ### A statement with such a value -/

namespace Reader

variable {setup : Setup} {name v : String} {fits : Prop} {l l' : Int} {t : Token}
  {ts us : List Token}

theorem read_eq_outcome (setup : Setup) (i : Input) : read setup i =
    match outcome (entries setup 0 0 none [] i) ⟨.fresh [] [], setup.settings.mode, []⟩ with
    | (.ok (_, j), s) => (.ok (.dictionary ⟨i.name, false, 1, j.line⟩ s.scope.entries), s.log)
    | (.error f, s) => (.error f, s.log) := by
  simp only [read, outcome, exec]
  rcases (entries setup 0 0 none [] i).run.run ⟨.fresh [] [], setup.settings.mode, []⟩ with
    ⟨_ | ⟨_, _⟩, _⟩ <;> rfl

/-- Where nothing is defined, a value that begins with a reference is a primitive one. -/
theorem readEntry_macro {budget n : Nat} {run : DirectiveRunner} {h : Heading} {s : ReadState}
    {fault : Option Failure} {line : Int} (ht : t.symbol.isMacro = true)
    (hs : ∀ f ∈ s.scope.frames, f.entries = []) :
    outcome (readEntry setup budget run n h ⟨name, t :: ts, fault, line⟩) s =
      outcome (readEntry.readPrimitive setup budget h ⟨name, t :: ts, fault, line⟩) s := by
  obtain ⟨y, l⟩ := t
  cases y with
  | reference a =>
    have hfind : exec (surroundings setup) s =
        (.ok (Context.surroundings ⟨setup, s.scope.frames⟩), s) := rfl
    have hnone : (Context.surroundings ⟨setup, s.scope.frames⟩).find? a = none :=
      Lookup.scopedEntry_empty hs a
    rw [readEntry.eq_def]
    unfold outcome
    simp only [exec_bind, exec_lift, Input.next, hfind, hnone]
  | directive =>
    rw [readEntry.eq_def]
    rfl
  | _ => contradiction

/-- What comes of the token `t` where it begins the value of the first statement of a text. -/
def begun (setup : Setup) (name v : String) (l : Int) (t : Token) (ts : List Token) :
    Except Failure (List Token × Input) × List Event :=
  outcome (expandToken (reference ⟨setup, [⟨[], false⟩]⟩ (setup.settings.budget 0))
    (inline ⟨setup, [⟨[], false⟩]⟩ (setup.settings.budget 0)) t
    ⟨name, ts, none, lineAfter (lineAfter 0 [⟨.word v, l⟩]) [t]⟩) []

/-- If nothing follows the value, the statement is the only one. -/
theorem read_begun (ht : t.symbol.isMacro = true) {line : Int} {log : List Event}
    (hx : begun setup name v l t ts = (.ok (us, ⟨name, [⟨.terminator, l'⟩], none, line⟩), log)) :
    Reader.read setup (.ofTokens name (⟨.word v, l⟩ :: t :: ts)) =
      (.ok (.dictionary ⟨name, false, 1, lineAfter line [⟨.terminator, l'⟩]⟩
        [.primitive ⟨v, false, l, l'⟩ us]), log) := by
  let start : ReadState := ⟨.fresh [] [], setup.settings.mode, []⟩
  have hempty : ∀ f ∈ start.scope.frames, f.entries = [] := List.forall_mem_singleton.mpr rfl
  have hplace : exec (place (.primitive ⟨v, false, l, l'⟩ us)) { start with log } =
    (.ok [.primitive ⟨v, false, l, l'⟩ us],
      ⟨.fresh [.primitive ⟨v, false, l, l'⟩ us] [], setup.settings.mode, log ++ []⟩) := rfl
  have hchecked : Heading.checked ⟨v, false, l, l'⟩ = .ok ⟨v, false, l, l'⟩ := rfl
  unfold begun at hx
  rw [read_eq_outcome, entries, Input.ofTokens, readEntries_statement (by simp) (by simp) rfl,
    readStatement_keyword (k := v) (p := false) rfl, readEntry_macro ht hempty, readPrimitive_eq,
    readValue_macro ht]
  erw [hx]
  dsimp only
  rw [readValue_terminator, prepend, List.append_nil]
  dsimp only
  rw [hchecked]
  simp only [Except.map]
  dsimp only [start] at hplace ⊢
  rw [hplace, List.append_nil]
  dsimp only
  rw [readEntries_end]
  rfl

/-- If the value fails, so does the read. -/
theorem read_failed (ht : t.symbol.isMacro = true) {f : Failure} {log : List Event}
    (hx : begun setup name v l t ts = (.error f, log)) :
    Reader.read setup (.ofTokens name (⟨.word v, l⟩ :: t :: ts)) = (.error (f.within name), log) := by
  let start : ReadState := ⟨.fresh [] [], setup.settings.mode, []⟩
  have hempty : ∀ f ∈ start.scope.frames, f.entries = [] := List.forall_mem_singleton.mpr rfl
  unfold begun at hx
  rw [read_eq_outcome, entries, Input.ofTokens, readEntries_statement (by simp) (by simp) rfl,
    readStatement_keyword (k := v) (p := false) rfl, readEntry_macro ht hempty, readPrimitive_eq,
    readValue_macro ht]
  erw [hx]

/-- A text that is a statement whose value is one reference or directive, with its argument. -/
theorem read_macro (ht : t.symbol.isMacro = true)
    (hx : ∀ line, WithinLimit .expansionOverflow fits
      (fun p log' => p = (us, ⟨name, [⟨.terminator, l'⟩], none, lineAfter line ts⟩) ∧ log' = [])
      (outcome (expandToken (reference ⟨setup, [⟨[], false⟩]⟩ (setup.settings.budget 0))
        (inline ⟨setup, [⟨[], false⟩]⟩ (setup.settings.budget 0)) t
        ⟨name, ts ++ [⟨.terminator, l'⟩], none, line⟩) [])) :
    WithinLimit .expansionOverflow fits
      (fun e _ => e.inner? = some [.primitive ⟨v, false, l, l'⟩ us])
      (Reader.read setup (.ofTokens name (⟨.word v, l⟩ :: t :: (ts ++ [⟨.terminator, l'⟩])))) := by
  have hbegun := hx (lineAfter (lineAfter 0 [⟨.word v, l⟩]) [t])
  constructor
  · intro hfits
    obtain ⟨p, log, hr, rfl, rfl⟩ := hbegun.gives hfits
    rw [read_begun ht hr]
    exact ⟨_, _, rfl, rfl⟩
  · intro hfits
    obtain ⟨f, log, hr, hf⟩ := hbegun.fails hfits
    rw [read_failed ht hr]
    exact ⟨_, _, rfl, (Failure.class?_within ..).trans hf⟩

/-- **A reference to a variable is expanded exactly if the limit allows as many as it takes.** -/
theorem read_reference {a : String} {n : Nat} {ss : List Symbol} {l'' : Int}
    (h : Denotes setup.settings.environment n [.reference a] ss) :
    WithinLimit .expansionOverflow (n ≤ setup.settings.budget 0)
      (fun e _ => e.inner? = some [.primitive ⟨v, false, l, l''⟩ (ss.map (⟨·, l'⟩))])
      (Reader.read setup
        (.ofTokens name [⟨.word v, l⟩, ⟨.reference a, l'⟩, ⟨.terminator, l''⟩])) := by
  cases h with
  | plain hs => contradiction
  | named hname htext hlex hts hus hnil =>
    cases hnil
    let c : Context := ⟨setup, [⟨[], false⟩]⟩
    have hempty : ∀ f ∈ c.frames, f.entries = [] := List.forall_mem_singleton.mpr rfl
    have hreference := Denotes.outcome_reference (setup.settings.budget 0) l' name [] hempty hname
      htext hlex hts hus fun n => hus.expanded hempty n _ l' 0 []
    rw [List.append_nil, Nat.max_zero]
    rw [← List.nil_append [(⟨.terminator, l''⟩ : Token)]]
    refine read_macro rfl fun line => ?_
    rw [outcome_expandToken_reference]
    refine hreference.map fun vs log hgood => ?_
    obtain ⟨rfl, rfl⟩ := hgood
    exact ⟨rfl, rfl⟩

/-- **Negations before a number are carried out exactly if the limit allows as many.** -/
theorem read_negations (hneg : setup.registry.find? "neg" = some .negate) {n : Nat} {x : Number}
    (hts : (t :: ts).map Token.symbol = List.replicate (n + 1) (.directive "neg") ++ [.number x]) :
    WithinLimit .expansionOverflow (n + 1 ≤ setup.settings.budget 0)
      (fun e _ => e.inner? =
        some [.primitive ⟨v, false, l, l'⟩ [⟨.number (Number.negate^[n + 1] x), t.line⟩]])
      (Reader.read setup (.ofTokens name (⟨.word v, l⟩ :: t :: (ts ++ [⟨.terminator, l'⟩])))) := by
  obtain ⟨y, line⟩ := t
  obtain ⟨rfl, harguments⟩ := List.cons.inj hts
  refine read_macro rfl fun _ => ?_
  exact inline_negations (c := ⟨setup, [⟨[], false⟩]⟩) hneg harguments _
    [⟨.terminator, l'⟩] line _

end Reader

end CaseDict
