import CaseDict.Proofs.InclusionDepth
import CaseDict.Proofs.Untaken
/-! # Where a read comes to

A text is read up to a position: through whole statements, into dictionaries and into the branches
that are taken (`Comes`). From there on each text goes its own way, and if what two texts come to at
the position is the same, it is the same in the end (`Comes.agree`). -/

namespace CaseDict

open Expansion Statement Entry

/-! ### Reads that come to the same -/

/-- What reading the statements of an input comes to. -/
abbrev reading (setup : Setup) (budget n : Nat) (closing : Option Heading) (stops : List String)
    (i : Input) (s : ReadState) : Except Failure (Option Token × Input) × ReadState :=
  outcome (readEntries setup budget (runDirective setup budget) n closing stops i) s

/-- Two reads come to the same: both fail with the same error, or both end in the same state. At the
end of the text they may have come to different lines. -/
inductive Agree {σ : Type} : (p q : Except Failure (Option Token × Input) × σ) → Prop
  | same (p : Except Failure (Option Token × Input) × σ) : Agree p p
  | failed (f : Failure) (u u' : σ) : Agree (.error f, u) (.error f, u')
  | ended (name : String) (line line' : Int) (u : σ) :
      Agree (.ok (none, ⟨name, [], none, line⟩), u) (.ok (none, ⟨name, [], none, line'⟩), u)

/-- Two runs come to the same: both fail with the same error, or both give the same. -/
inductive Concur {α σ : Type} : (p q : Except Failure α × σ) → Prop
  | same (p : Except Failure α × σ) : Concur p p
  | failed (f : Failure) (u u' : σ) : Concur (.error f, u) (.error f, u')

namespace Agree

variable {σ : Type} {p q r : Except Failure (Option Token × Input) × σ}

theorem symm (h : Agree p q) : Agree q p := by
  cases h with
  | same => exact .same _
  | failed f u u' => exact .failed f u' u
  | ended name line line' u => exact .ended name line' line u

theorem trans (h : Agree p q) (h' : Agree q r) : Agree p r := by
  cases h with
  | same => exact h'
  | failed f u u' =>
    cases h' with
    | same => exact .failed f u u'
    | failed _ _ u'' => exact .failed f u u''
  | ended name line line' u =>
    cases h' with
    | same => exact .ended name line line' u
    | ended _ _ line'' => exact .ended name line line'' u

end Agree

theorem Concur.agree {σ : Type} {p q : Except Failure (Option Token × Input) × σ}
    (h : Concur p q) : Agree p q := by
  cases h with
  | same => exact .same _
  | failed => exact .failed _ _ _

variable {setup : Setup} {budget n : Nat} {name : String} {closing : Option Heading}
  {stops : List String} {fault : Option Failure} {s u : ReadState} {ts : List Token}

/-- A directive that is among `stops` ends the statements. -/
theorem reading_stop {t : Token} {line : Int} (ht : t.symbol.isDirectiveIn stops = true) :
    reading setup budget n closing stops ⟨name, t :: ts, fault, line⟩ s =
      (.ok (some t, ⟨name, ts, fault, lineAfter line [t]⟩), s) := by
  obtain ⟨y, l⟩ := t
  have hbrace : y ≠ .closer .brace := fun h => by
    rw [h] at ht
    contradiction
  have hterminator : y ≠ .terminator := fun h => by
    rw [h] at ht
    contradiction
  rw [reading, readEntries.eq_def]
  simp only [outcome, exec_bind, exec_lift, Input.next, if_neg hbrace, if_neg hterminator, if_pos ht]
  rfl

/-- The line that was come to before some statements does not count if they begin in a line. -/
theorem agree_line (hline : ∀ t ∈ ts.head?, 0 ≤ t.line) (line line' : Int) :
    Agree (reading setup budget n closing stops ⟨name, ts, fault, line⟩ s)
      (reading setup budget n closing stops ⟨name, ts, fault, line'⟩ s) := by
  cases ts with
  | nil =>
    cases fault with
    | some f =>
      unfold reading
      rw [readEntries.eq_def, readEntries.eq_def]
      exact .failed f s s
    | none =>
      cases closing with
      | none =>
        rw [reading, readEntries_end, reading, readEntries_end]
        exact .ended name line line' s
      | some h =>
        rw [reading, readEntries_unclosed, reading, readEntries_unclosed]
        exact .same _
  | cons t ts =>
    have hfirst (line : Int) : lineAfter line [t] = t.line := if_pos (hline t rfl)
    obtain ⟨y, l⟩ := t
    by_cases hbrace : y = .closer .brace
    · subst hbrace
      cases closing with
      | none =>
        rw [reading, readEntries_strayBrace, reading, readEntries_strayBrace]
        exact .same _
      | some h =>
        rw [reading, readEntries_brace, reading, readEntries_brace, hfirst, hfirst]
        exact .same _
    by_cases hterminator : y = .terminator
    · subst hterminator
      rw [reading, readEntries_terminator, reading, readEntries_terminator, hfirst, hfirst]
      exact .same _
    cases hstop : y.isDirectiveIn stops with
    | true =>
      rw [reading_stop hstop, reading_stop hstop, hfirst, hfirst]
      exact .same _
    | false =>
      rw [reading, readEntries_statement hbrace hterminator hstop, reading,
        readEntries_statement hbrace hterminator hstop, hfirst, hfirst]
      exact .same _

/-! ### Whole statements -/

/-- After a reference in place of a keyword the next statements are read alike, whether it is ended
or not. -/
theorem agree_reference {ref : String} {l line : Int} {es es' : List Entry}
    (hspliced : Spliced setup ref s es') (hplace : exec (placeAll es') s = (.ok es, u))
    (hfault : ∀ f ∈ fault, f.within name = f) :
    Agree (reading setup budget n closing stops ⟨name, ⟨.reference ref, l⟩ :: ts, fault, line⟩ s)
      (reading setup budget n closing stops
        ⟨name, ts, fault, lineAfter line [⟨.reference ref, l⟩]⟩ u) := by
  let behind : Input := ⟨name, ts, fault, lineAfter line [⟨.reference ref, l⟩]⟩
  have hon {j : Input} (hj : behind.Sheds j) :
      reading setup budget n closing stops ⟨name, ⟨.reference ref, l⟩ :: ts, fault, line⟩ s =
        reading setup budget n closing stops j u := by
    have hstatement : Gives (readStatement setup budget (runDirective setup budget) n
        ⟨.reference ref, l⟩ behind) s es j u :=
      gives_readStatement.mpr (gives_stated_reference.mpr ⟨es', hspliced, hj, hplace⟩)
    rw [reading, readEntries_statement (by simp) (by simp) rfl, outcome_eq_ok.mpr hstatement]
  cases ts with
  | nil =>
    cases fault with
    | none =>
      rw [hon (j := behind) rfl]
      exact .same _
    | some f =>
      obtain ⟨h, hfind, -⟩ := hspliced
      have hsplice : exec (splice setup ref ⟨.reference ref, l⟩ behind) s = (.error f, s) := by
        have hentry : (s.surroundings setup).entry ref l = .ok (.dictionary h es') :=
          Surroundings.entry_eq_ok.mpr hfind
        have hrun : exec (surroundings setup) s = (.ok (s.surroundings setup), s) := rfl
        rw [splice, exec_bind, hrun]
        dsimp only
        rw [exec_bind, exec_lift, hentry]
        rfl
      have hstatement : outcome (readStatement setup budget (runDirective setup budget) n
          ⟨.reference ref, l⟩ behind) s = (.error f, s) := by
        rw [outcome, readStatement.eq_def, exec_adapt, exec_bind, hsplice]
        exact congrArg (fun f => (Except.error f, s)) (hfault f rfl)
      rw [reading, readEntries_statement (by simp) (by simp) rfl, hstatement]
      unfold reading
      rw [readEntries.eq_def]
      exact .failed f s u
  | cons t ts =>
    obtain ⟨y, l'⟩ := t
    by_cases hy : y = .terminator
    · subst hy
      rw [hon (j := behind.after ⟨.terminator, l'⟩ ts) rfl, reading, reading, readEntries_terminator]
      exact .same _
    · have hsheds : behind.Sheds behind := by
        unfold Input.Sheds
        rw [show behind.next = .ok (some (⟨y, l'⟩, _)) from rfl]
        cases y <;> first | rfl | contradiction
      rw [hon hsheds]
      exact .same _

/-- A statement that is read goes on relating the scope to itself. -/
theorem rel_statement (hregistry : setup.registry = .standard) {x : Scope.Kind}
    (hs : Relined.Rel x s s) {t : Token} {i l : Input} {es : List Entry}
    (hg : Gives (readStatement setup budget (runDirective setup budget) n t i) s es l u) :
    Relined.Rel x u u := by
  rw [← Watched.runDirective_never, ← Watched.readStatement_never (Watched.neverBelow _)] at hg
  obtain ⟨left, hx, -⟩ := hg
  exact (Relined.comparison hregistry).statement hs hx

section Behind

variable {r₀ : Tail} (hr₀ : r₀.Closes) (hregistry : setup.registry = .standard) {x : Scope.Kind}
  {pre : List Token} {line : Int} (hs : Relined.Rel x s s)

include hr₀ hregistry hs

/-- A statement that is read before the end of a branch is read whatever is behind it; the tokens
that are left are well nested. -/
theorem statement_behind {t : Token} {es : List Entry} {l : Input}
    (hpre : Token.WellNested (t :: pre)) (hlone : pre = [] → ∀ ref, t.symbol ≠ .reference ref)
    (hg : Gives (readStatement setup budget (runDirective setup budget) n t (r₀.behind pre name line))
      s es l u) :
    ∃ rest line', rest.length ≤ pre.length ∧ Token.WellNested rest ∧ l = r₀.behind rest name line' ∧
      ∀ r : Tail, Gives (readStatement setup budget (runDirective setup budget) n t
        (r.behind pre name line)) s es (r.behind rest name line') u := by
  let C := Relined.comparison hregistry
  have hwatched : Gives (Watched.readStatement .never setup budget
      (Watched.runDirective .never setup budget) n t (r₀.behind pre name line)) s es l u := by
    rw [Watched.runDirective_never, Watched.readStatement_never (Watched.neverBelow _)]
    exact hg
  obtain ⟨level, hlevel, hcourse⟩ := C.statement_course (d := 0) hr₀.branches hregistry
    (Comparison.runs_course hr₀.branches hregistry budget)
    (Comparison.entries_course hr₀.branches hregistry budget _) hs hlone rfl hwatched
  rw [Token.WellNested, Token.levels_cons, hlevel, Option.bind_some] at hpre
  cases hcourse with
  | @done ts rest line' hrest hts hj gives =>
    have hlevels : Token.levels level ts = some 0 := by
      rwa [Token.WellNested, Token.levels_cons, hlevel, Option.bind_some] at hts
    rw [hrest, Token.levels_append, hlevels, Option.bind_some] at hpre
    have hle : rest.length ≤ pre.length := by
      rw [hrest, List.length_append]
      omega
    exact ⟨rest, line', hle, hpre, hj, fun r => gives r _ rfl⟩
  | within h =>
    -- The tail would end a branch inside of the statement, but the tokens before are well nested.
    obtain ⟨P, -, ⟨b, k, w, hok⟩, hlevels, -, hendless | hlt, -⟩ := h
    · cases P with
      | entries budget' nesting closing stops =>
        obtain rfl : stops = [] := hendless
        exact absurd hok (not_gives_endless hr₀ hregistry)
      | skip => exact hendless.elim
    · rw [hpre] at hlevels
      obtain rfl := Option.some.inj hlevels
      omega

/-- Statements that are read before the end of a branch are read to the same state whatever is
behind them. -/
theorem agree_behind {a : Option Token} {j : Input} (hpre : Token.WellNested pre)
    (hg : Gives (readEntries setup budget (runDirective setup budget) n none branchEnds
      (r₀.behind pre name line)) s a j u) :
    Relined.Rel x u u ∧ ∃ line', ∀ closing stops rest fault, stops ⊆ branchEnds →
      (∀ f ∈ fault, f.within name = f) →
        Agree (reading setup budget n closing stops ⟨name, pre ++ rest, fault, line⟩ s)
          (reading setup budget n closing stops ⟨name, rest, fault, line'⟩ u) := by
  induction hn : pre.length using Nat.strongRecOn generalizing pre line s with
  | ind size ih =>
    subst hn
    cases pre with
    | nil =>
      obtain ⟨tokens, fault₀⟩ := r₀
      obtain ⟨t, more, rfl, ht⟩ := hr₀
      cases (reading_stop ht).symm.trans (outcome_eq_ok.mpr hg)
      exact ⟨hs, line, fun _ _ _ _ _ _ => .same _⟩
    | cons t pre =>
      rw [gives_behind] at hg
      split at hg
      · exact absurd hg.1 Bool.false_ne_true
      next hbrace =>
      split at hg
      · next hterminator =>
        have hbranching : t.isBranching = false := by
          rw [Token.isBranching, hterminator]
          rfl
        obtain ⟨hu, line', hagree⟩ := ih pre.length (Nat.lt_succ_self _) hs
          ((Token.wellNested_cons hbranching).mp hpre) hg rfl
        refine ⟨hu, line', fun closing stops rest fault hstops hfault => ?_⟩
        obtain ⟨y, l⟩ := t
        obtain rfl : y = _ := hterminator
        rw [List.cons_append, reading, readEntries_terminator]
        exact hagree closing stops rest fault hstops hfault
      next hterminator =>
      split at hg
      · next hends =>
        rw [Token.WellNested, Token.levels_cons,
          (Token.level_succ_of_branchEnd (d := 0) hends).2] at hpre
        contradiction
      next hends =>
      obtain ⟨es, l, v, hstatement, hloop⟩ := hg
      have hv := rel_statement hregistry hs hstatement
      by_cases hlone : pre = [] ∧ ∃ ref, t.symbol = .reference ref
      · obtain ⟨rfl, ref, href⟩ := hlone
        obtain ⟨y, tline⟩ := t
        obtain rfl : y = _ := href
        obtain ⟨es', hspliced, -, hplace⟩ :=
          gives_stated_reference.mp (gives_readStatement.mp hstatement)
        have hrest := (gives_readEntries_reference hspliced hplace).mp ⟨es, l, v, hstatement, hloop⟩
        obtain ⟨hu, line', hagree⟩ := ih 0 (Nat.lt_succ_self _) hv
          (show Token.WellNested [] from rfl) hrest rfl
        refine ⟨hu, line', fun closing stops rest fault hstops hfault => ?_⟩
        exact (agree_reference hspliced hplace hfault).trans
          (hagree closing stops rest fault hstops hfault)
      obtain ⟨left, l', hle, hleft, rfl, gives⟩ := statement_behind hr₀ hregistry hs hpre
        (fun hpre ref href => hlone ⟨hpre, ref, href⟩) hstatement
      obtain ⟨hu, line', hagree⟩ := ih left.length (Nat.lt_succ_of_le hle) hv hleft hloop rfl
      refine ⟨hu, line', fun closing stops rest fault hstops hfault => ?_⟩
      have hnotStop : t.symbol.isDirectiveIn stops = false := by
        rw [Bool.eq_false_iff]
        exact fun h => hends (Symbol.isDirectiveIn_mono hstops h)
      have hon := outcome_eq_ok.mpr (gives ⟨rest, fault⟩)
      rw [List.cons_append, reading, readEntries_statement hbrace hterminator hnotStop]
      rw [show (⟨name, pre ++ rest, fault, lineAfter line [t]⟩ : Input) =
        Tail.behind ⟨rest, fault⟩ pre name (Token.lineAfter line [t]) from rfl, hon]
      exact hagree closing stops rest fault hstops hfault

end Behind

/-! ### Conditionals -/

section Conditionals

variable {entries : List String → (i : Input) → ReadM (Taken (Option Token) i)} {own : Directive}
  {t e : Token} {line : Int}

/-- A branch that is taken is read as a block. -/
theorem outcome_taken (i : Input) : outcome (conditional entries own t true i) s =
    match outcome (entries branchEnds i) { s with scope := .staged [] s.scope } with
    | (.ok (none, _), u) => (.error (conditionalUnclosed own t i), (Follows.leaveBlock u).2)
    | (.ok (some found, j), u) =>
      if isOtherwise found then ((skipped own t false 0 j).map fun p =>
        ((Follows.leaveBlock u).1, p.2), (Follows.leaveBlock u).2)
      else (.ok ((Follows.leaveBlock u).1, j), (Follows.leaveBlock u).2)
    | (.error f, u) => (.error f, (Follows.leaveBlock u).2) := by
  unfold outcome conditional
  rw [if_pos rfl, exec_bind, Follows.exec_inBlock_eq]
  rcases exec (entries branchEnds i) { s with scope := .staged [] s.scope } with
    ⟨f | ⟨found | found, rest⟩, u⟩
  · rfl
  · rfl
  by_cases hother : isOtherwise found = true
  · simp only [Except.map, if_pos hother, exec_bind, exec_lift, skipped]
    cases skipBranch own t false 0 rest.input <;> rfl
  · simp only [Except.map, if_neg hother]
    rfl

/-- Behind a branch that is passed over the other one is read as a block. -/
theorem outcome_otherwise {us rest : List Token} (hus : Token.WellNested us)
    (he : e.symbol = .directive Directive.otherwise.name) :
    outcome (conditional entries own t false ⟨name, us ++ e :: rest, fault, line⟩) s =
    match outcome (entries branchEnds ⟨name, rest, fault, lineAfter line (us ++ [e])⟩)
        { s with scope := .staged [] s.scope } with
    | (.ok (none, _), u) =>
      (.error (conditionalUnclosed own t ⟨name, rest, fault, line⟩), (Follows.leaveBlock u).2)
    | (.ok (some found, j), u) =>
      if isOtherwise found then
        (.error (misuse t ⟨name, rest, fault, line⟩ (.secondElse found.line)),
          (Follows.leaveBlock u).2)
      else (.ok ((Follows.leaveBlock u).1, j), (Follows.leaveBlock u).2)
    | (.error f, u) => (.error f, (Follows.leaveBlock u).2) := by
  obtain ⟨hends, hother⟩ := branchEnd_otherwise he
  have hskip : skipped own t true 0 ⟨name, us ++ e :: rest, fault, line⟩ =
      .ok (e, ⟨name, rest, fault, lineAfter line (us ++ [e])⟩) := by
    have htail (ts : List Token) (line : Int) : (⟨name, ts, fault, line⟩ : Input) =
        Tail.behind ⟨[], fault⟩ ts name line := by
      simp only [Tail.behind, List.append_nil]
    rw [htail, skipped_ended hus (Token.level_succ_of_branchEnd (d := 0) hends).2, hother,
      if_neg (by decide), htail]
    rfl
  unfold outcome conditional
  rw [if_neg Bool.false_ne_true, exec_bind, exec_lift]
  rw [skipped] at hskip
  generalize skipBranch own t true 0 ⟨name, us ++ e :: rest, fault, line⟩ = found at hskip ⊢
  obtain f | ⟨found, more⟩ := found
  · contradiction
  obtain ⟨hfound, hmore⟩ := Prod.mk.inj (Except.ok.inj hskip)
  obtain rfl : found = e := hfound
  dsimp only at hmore ⊢
  rw [if_pos hother, exec_bind, Follows.exec_inBlock_eq, ← hmore]
  rcases exec (entries branchEnds more.input) { s with scope := .staged [] s.scope } with
    ⟨f | ⟨found | found, rest⟩, u⟩
  · rfl
  · rfl
  by_cases hother : isOtherwise found = true
  · simp only [Except.map, if_pos hother]
    rfl
  · simp only [Except.map, if_neg hother]
    rfl

end Conditionals

/-! ### Conditions -/

/-- The directive that ends a conditional. -/
def Token.endIf : Token := ⟨.directive Directive.endIf.name, 0⟩

theorem Tail.closes_endIf : Closes ⟨[.endIf], none⟩ := ⟨.endIf, [], rfl, rfl⟩

/-- The tokens are an argument that is expanded to `c`, also if the next directive follows. -/
def ReadsArgument (setup : Setup) (budget : Nat) (name : String) (ts c : List Token) (s : ReadState)
    (log : List Event) : Prop :=
  ∀ line, Gives (argument setup budget ⟨name, ts ++ [.endIf], none, line⟩) s c
    ⟨name, [.endIf], none, lineAfter line ts⟩ { s with log }

/-- The token and the ones behind it open a conditional, whose condition holds or does not. -/
inductive Opens (setup : Setup) (budget : Nat) (name : String) (t : Token) (taken : Bool)
    (s : ReadState) (log : List Event) : Directive → List Token → Prop
  | ifTrue {ts c : List Token} (ht : t.symbol = .directive Directive.ifTrue.name)
      (hts : ReadsArgument setup budget name ts c s log) (hc : Switch.ofTokens c = some taken) :
      Opens setup budget name t taken s log .ifTrue ts
  | ifEqual {ts us left right : List Token} {log' : List Event}
      (ht : t.symbol = .directive Directive.ifEqual.name)
      (hts : ReadsArgument setup budget name ts left s log')
      (hus : ReadsArgument setup budget name us right { s with log := log' } log)
      (htaken : (left.map Token.text == right.map Token.text) = taken) :
      Opens setup budget name t taken s log .ifEqual (ts ++ us)

theorem ReadsArgument.behind {c : List Token} {log : List Event}
    (h : ReadsArgument setup budget name ts c s log) (hregistry : setup.registry = .standard)
    (line : Int) (rest : List Token) (fault : Option Failure) :
    outcome (argument setup budget ⟨name, ts ++ rest, fault, line⟩) s =
      (.ok (c, ⟨name, rest, fault, lineAfter line ts⟩), { s with log }) := by
  have hg : Gives (argument setup budget (Tail.behind ⟨[.endIf], none⟩ ts name line)) s c
    ⟨name, [.endIf], none, lineAfter line ts⟩ { s with log } := h line
  obtain ⟨us, rest₀, line', hts, -, hj, -, gives⟩ :=
    Comparison.argument_passing Tail.closes_endIf.branches rfl hregistry budget hg
  obtain rfl : rest₀ = [] := by
    have htokens := congrArg Input.tokens hj
    simpa [Tail.behind] using htokens
  obtain rfl : lineAfter line ts = line' := congrArg Input.line hj
  exact outcome_eq_ok.mpr (gives ⟨rest, fault⟩ _ rfl)

section

variable {t : Token} {taken : Bool} {log : List Event} {d : Directive}
  (h : Opens setup budget name t taken s log d ts)

include h

theorem Opens.symbol : ∃ x, t.symbol = .directive x := by
  cases h with
  | ifTrue ht | ifEqual ht => exact ⟨_, ht⟩

theorem Opens.isDirectiveIn (hstops : stops ⊆ branchEnds) :
    t.symbol.isDirectiveIn stops = false := by
  rw [Bool.eq_false_iff]
  intro hstop
  have hends := Symbol.isDirectiveIn_mono hstops hstop
  cases h with
  | ifTrue ht | ifEqual ht =>
    rw [ht] at hends
    contradiction

/-- The condition of a conditional is read before its branches. -/
theorem Opens.outcome (hregistry : setup.registry = .standard) (n : Nat) (line : Int)
    (rest : List Token) (fault : Option Failure) :
    outcome (runDirective setup (budget + 1) n t ⟨name, ts ++ rest, fault, line⟩) s =
      CaseDict.outcome (conditional (readEntries setup budget (runDirective setup budget) n none) d t
        taken ⟨name, rest, fault, lineAfter line ts⟩) { s with log } := by
  obtain ⟨y, l⟩ := t
  cases h with
  | ifTrue ht hts hc =>
    obtain rfl : y = _ := ht
    obtain ⟨left, hx, hleft⟩ := outcome_eq_ok.mp (hts.behind hregistry line rest fault)
    have hget : setup.registry.get Directive.ifTrue.name l (some name) = .ok .ifTrue := by
      rw [hregistry]
      rfl
    rw [argument] at hx
    unfold CaseDict.outcome runDirective
    dsimp only [Symbol.value]
    rw [exec_bind, exec_lift, hget]
    dsimp only
    rw [exec_bind, hx]
    dsimp only
    rw [hc]
    dsimp only
    rw [exec_bind, ← hleft]
    rcases exec (conditional _ _ _ _ left.input) _ with ⟨_ | ⟨es, more⟩, u⟩ <;> rfl
  | @ifEqual ts us left right log' ht hts hus htaken =>
    obtain rfl : y = _ := ht
    obtain ⟨first, hx, hfirst⟩ := outcome_eq_ok.mp (hts.behind hregistry line (us ++ rest) fault)
    have hright := hus.behind hregistry (lineAfter line ts) rest fault
    rw [← hfirst] at hright
    obtain ⟨second, hx', hsecond⟩ := outcome_eq_ok.mp hright
    have hget : setup.registry.get Directive.ifEqual.name l (some name) = .ok .ifEqual := by
      rw [hregistry]
      rfl
    rw [argument] at hx hx'
    rw [List.append_assoc, lineAfter_append]
    unfold CaseDict.outcome runDirective
    dsimp only [Symbol.value]
    rw [exec_bind, exec_lift, hget]
    dsimp only
    rw [exec_bind, hx]
    dsimp only
    rw [exec_bind, hx']
    dsimp only [Input.Rest.onward]
    rw [exec_bind, ← hsecond, htaken]
    rcases exec (conditional _ _ _ _ second.input) _ with ⟨_ | ⟨es, more⟩, u⟩ <;> rfl

end

/-! ### Positions -/

/-- The tokens are whole statements that lead from one state to another: so they are read before the
end of a branch. -/
structure ReadsTo (setup : Setup) (budget n : Nat) (name : String) (ts : List Token)
    (s u : ReadState) : Prop where
  nested : Token.WellNested ts
  reads (line : Int) : ∃ a j, Gives (readEntries setup budget (runDirective setup budget) n none
    branchEnds ⟨name, ts ++ [.endIf], none, line⟩) s a j u

/-- Reading the tokens, statements of a text at a depth of expansion and a level of nesting, comes to
a position where statements are read with `budget'`, at the level `n'` and in the state `t`. -/
inductive Comes (setup : Setup) (name : String) (budget' n' : Nat) (t : ReadState) :
    (budget n : Nat) → List Token → ReadState → Prop
  | here : Comes setup name budget' n' t budget' n' [] t
  | statements {budget n : Nat} {ts rest : List Token} {s u : ReadState}
      (hts : ReadsTo setup budget n name ts s u)
      (hrest : Comes setup name budget' n' t budget n rest u) :
      Comes setup name budget' n' t budget n (ts ++ rest) s
  | dictionary {budget n : Nat} {k : Token} {x : String} {p : Bool} {l : Int} {rest : List Token}
      {s : ReadState} (hk : k.symbol = keywordSymbol x p) (hp : p = true → Pattern.fault? x = none)
      (hn : n < setup.settings.maxNesting)
      (hrest : Comes setup name budget' n' t budget (n + 1) rest { s with scope := s.scope.inner }) :
      Comes setup name budget' n' t budget n (k :: ⟨.opener .brace, l⟩ :: rest) s
  | taken {budget n : Nat} {own : Token} {d : Directive} {ts rest : List Token} {s : ReadState}
      {log : List Event} (hts : Opens setup budget name own true s log d ts)
      (hrest : Comes setup name budget' n' t budget n rest ⟨.staged [] s.scope, s.mode, log⟩) :
      Comes setup name budget' n' t (budget + 1) n (own :: (ts ++ rest)) s
  | otherwise {budget n : Nat} {own other : Token} {d : Directive} {ts us rest : List Token}
      {s : ReadState} {log : List Event} (hts : Opens setup budget name own false s log d ts)
      (hus : Token.WellNested us) (hother : other.symbol = .directive Directive.otherwise.name)
      (hrest : Comes setup name budget' n' t budget n rest ⟨.staged [] s.scope, s.mode, log⟩) :
      Comes setup name budget' n' t (budget + 1) n (own :: (ts ++ (us ++ other :: rest))) s

theorem ReadsTo.agree {x : Scope.Kind} (hregistry : setup.registry = .standard)
    (h : ReadsTo setup budget n name ts s u) (hs : Relined.Rel x s s) :
    Relined.Rel x u u ∧ ∀ line, ∃ line', ∀ closing stops rest fault, stops ⊆ branchEnds →
      (∀ f ∈ fault, f.within name = f) →
        Agree (reading setup budget n closing stops ⟨name, ts ++ rest, fault, line⟩ s)
          (reading setup budget n closing stops ⟨name, rest, fault, line'⟩ u) := by
  have hread (line : Int) {a : Option Token} {j : Input} (hg : Gives (readEntries setup budget
      (runDirective setup budget) n none branchEnds ⟨name, ts ++ [Token.endIf], none, line⟩)
      s a j u) :=
    agree_behind Tail.closes_endIf hregistry hs h.nested
      (show Gives (readEntries setup budget (runDirective setup budget) n none branchEnds
        (Tail.behind ⟨[.endIf], none⟩ ts name line)) s a j u from hg)
  obtain ⟨a, j, hg⟩ := h.reads 0
  refine ⟨(hread 0 hg).1, fun line => ?_⟩
  obtain ⟨a, j, hg⟩ := h.reads line
  exact (hread line hg).2

/-! ### Texts that go their own ways -/

section Behind

variable {rest rest' : List Token} {line : Int}

/-- Texts come to the same that come to the same behind the opening of a dictionary. -/
theorem agree_dictionary {k : Token} {x : String} {p : Bool} {l : Int}
    (hk : k.symbol = keywordSymbol x p) (hp : p = true → Pattern.fault? x = none)
    (hn : n < setup.settings.maxNesting)
    (hinside : ∀ line closing, Agree
      (reading setup budget (n + 1) closing [] ⟨name, rest, fault, line⟩
        { s with scope := s.scope.inner })
      (reading setup budget (n + 1) closing [] ⟨name, rest', fault, line⟩
        { s with scope := s.scope.inner })) :
    Agree
      (reading setup budget n closing stops ⟨name, k :: ⟨.opener .brace, l⟩ :: rest, fault, line⟩ s)
      (reading setup budget n closing stops
        ⟨name, k :: ⟨.opener .brace, l⟩ :: rest', fault, line⟩ s) := by
  have hagree := hinside (lineAfter (lineAfter line [k]) [⟨.opener .brace, l⟩])
    (some ⟨x, p, k.line, -1⟩)
  unfold reading at hagree ⊢
  rw [readEntries_dictionary hk hp hn, readEntries_dictionary hk hp hn]
  generalize outcome (readEntries setup budget _ (n + 1) _ [] ⟨name, rest, fault, _⟩) _ = q,
    outcome (readEntries setup budget _ (n + 1) _ [] ⟨name, rest', fault, _⟩) _ = q' at hagree ⊢
  cases hagree with
  | failed => exact .failed _ _ _
  | same => exact .same _
  | ended source l l' v =>
    dsimp only
    rcases exec (place _) { v with scope := s.scope } with ⟨f | placed, v'⟩
    · exact .failed _ _ _
    · exact agree_line (by simp) l l'

/-- What a directive brings, and what is behind it, comes to the same if what the directive comes to
does. -/
theorem agree_directive {t : Token} {x : String} (ht : t.symbol = .directive x)
    (hstops : t.symbol.isDirectiveIn stops = false) (hconcur : Concur
      (outcome (runDirective setup budget n t ⟨name, rest, fault, lineAfter line [t]⟩) s)
      (outcome (runDirective setup budget n t ⟨name, rest', fault, lineAfter line [t]⟩) s)) :
    Agree (reading setup budget n closing stops ⟨name, t :: rest, fault, line⟩ s)
      (reading setup budget n closing stops ⟨name, t :: rest', fault, line⟩ s) := by
  unfold reading
  rw [readEntries_directive ht hstops, readEntries_directive ht hstops]
  generalize outcome (runDirective setup budget n t ⟨name, rest, fault, _⟩) s = q,
    outcome (runDirective setup budget n t ⟨name, rest', fault, _⟩) s = q' at hconcur ⊢
  cases hconcur with
  | failed => exact .failed _ _ _
  | same => exact .same _

variable {own : Token} {d : Directive}

/-- A branch that is taken comes to the same if its statements do. -/
theorem concur_taken (hinside : Agree
      (reading setup budget n none branchEnds ⟨name, rest, fault, line⟩
        { s with scope := .staged [] s.scope })
      (reading setup budget n none branchEnds ⟨name, rest', fault, line⟩
        { s with scope := .staged [] s.scope })) :
    Concur
      (outcome (conditional (readEntries setup budget (runDirective setup budget) n none) d own true
        ⟨name, rest, fault, line⟩) s)
      (outcome (conditional (readEntries setup budget (runDirective setup budget) n none) d own true
        ⟨name, rest', fault, line⟩) s) := by
  unfold reading at hinside
  rw [outcome_taken, outcome_taken]
  generalize outcome (readEntries setup budget _ n none branchEnds ⟨name, rest, fault, line⟩) _ = q,
    outcome (readEntries setup budget _ n none branchEnds ⟨name, rest', fault, line⟩) _ = q'
      at hinside ⊢
  cases hinside with
  | failed => exact .failed _ _ _
  | ended => exact .failed _ _ _
  | same =>
    obtain ⟨f | ⟨_ | found, j⟩, v⟩ := q
    · exact .failed _ _ _
    · exact .failed _ _ _
    · exact .same _

/-- Behind a branch that is passed over the other one comes to the same if its statements do. -/
theorem concur_otherwise {us : List Token} {other : Token} (hus : Token.WellNested us)
    (hother : other.symbol = .directive Directive.otherwise.name)
    (hinside : ∀ line, Agree
      (reading setup budget n none branchEnds ⟨name, rest, fault, line⟩
        { s with scope := .staged [] s.scope })
      (reading setup budget n none branchEnds ⟨name, rest', fault, line⟩
        { s with scope := .staged [] s.scope })) :
    Concur
      (outcome (conditional (readEntries setup budget (runDirective setup budget) n none) d own false
        ⟨name, us ++ other :: rest, fault, line⟩) s)
      (outcome (conditional (readEntries setup budget (runDirective setup budget) n none) d own false
        ⟨name, us ++ other :: rest', fault, line⟩) s) := by
  have hagree := hinside (lineAfter line (us ++ [other]))
  unfold reading at hagree
  rw [outcome_otherwise hus hother, outcome_otherwise hus hother]
  generalize outcome (readEntries setup budget _ n none branchEnds ⟨name, rest, fault, _⟩) _ = q,
    outcome (readEntries setup budget _ n none branchEnds ⟨name, rest', fault, _⟩) _ = q'
      at hagree ⊢
  cases hagree with
  | failed => exact .failed _ _ _
  | ended => exact .failed _ _ _
  | same =>
    obtain ⟨f | ⟨_ | found, j⟩, v⟩ := q
    · exact .failed _ _ _
    · exact .failed _ _ _
    dsimp only
    split
    · exact .failed _ _ _
    · exact .same _

end Behind

/-- **Texts come to the same if they do from a position on that both come to.** -/
theorem Comes.agree (hregistry : setup.registry = .standard) {budget' n' : Nat} {t : ReadState}
    {pre : List Token} (h : Comes setup name budget' n' t budget n pre s)
    {x : Scope.Kind} (hrel : Relined.Rel x s s) (hfault : ∀ f ∈ fault, f.within name = f)
    {rest rest' : List Token} (hplace : ∀ line closing stops, stops ⊆ branchEnds →
      Agree (reading setup budget' n' closing stops ⟨name, rest, fault, line⟩ t)
        (reading setup budget' n' closing stops ⟨name, rest', fault, line⟩ t))
    (line : Int) (closing : Option Heading) {stops : List String} (hstops : stops ⊆ branchEnds) :
    Agree (reading setup budget n closing stops ⟨name, pre ++ rest, fault, line⟩ s)
      (reading setup budget n closing stops ⟨name, pre ++ rest', fault, line⟩ s) := by
  induction h generalizing x line closing stops with
  | here => exact hplace line closing stops hstops
  | statements hts _ ih =>
    obtain ⟨hrel', hlines⟩ := hts.agree hregistry hrel
    obtain ⟨l, hagree⟩ := hlines line
    rw [List.append_assoc, List.append_assoc]
    exact (hagree closing stops _ fault hstops hfault).trans
      ((ih hrel' l closing hstops).trans (hagree closing stops _ fault hstops hfault).symm)
  | dictionary hk hp hn _ ih =>
    exact agree_dictionary hk hp hn fun line closing =>
      ih ⟨hrel.1.inner, hrel.2⟩ line closing (List.nil_subset _)
  | taken hts _ ih =>
    obtain ⟨x, hx⟩ := hts.symbol
    rw [List.cons_append, List.cons_append, List.append_assoc, List.append_assoc]
    refine agree_directive hx (hts.isDirectiveIn hstops) ?_
    rw [hts.outcome hregistry, hts.outcome hregistry]
    exact concur_taken (ih ⟨.block rfl hrel.1, hrel.2⟩ _ none (List.Subset.refl _))
  | otherwise hts hus hother _ ih =>
    obtain ⟨x, hx⟩ := hts.symbol
    simp only [List.cons_append, List.append_assoc]
    refine agree_directive hx (hts.isDirectiveIn hstops) ?_
    rw [hts.outcome hregistry, hts.outcome hregistry]
    exact concur_otherwise hus hother fun line =>
      ih ⟨.block rfl hrel.1, hrel.2⟩ line none (List.Subset.refl _)

end CaseDict
