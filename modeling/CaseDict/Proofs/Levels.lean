import CaseDict.Proofs.Tracking
/-! # Levels of conditionals

How many conditionals are open is counted along the tokens (`Token.levels`). A branch that is passed
over ends where the count says, and the tokens before that are passed over whatever comes behind
(`skipBranch_behind`). -/

namespace CaseDict

open Expansion Statement

namespace Token

/-- How many conditionals are open after a token if `d` of them are before; none if the token ends
or divides one that is not open. -/
def level (d : Nat) (t : Token) : Option Nat :=
  if t.symbol.isDirectiveIn conditionals then some (d + 1)
  else if t.symbol = .directive Directive.endIf.name then if d = 0 then none else some (d - 1)
  else if isOtherwise t && d == 0 then none
  else some d

/-- How many conditionals are open after the tokens if `d` of them are before. -/
def levels (d : Nat) (ts : List Token) : Option Nat := ts.foldlM level d

/-- Every conditional in the tokens is ended, and nothing else is. -/
def WellNested (ts : List Token) : Prop := levels 0 ts = some 0

instance (ts : List Token) : Decidable (WellNested ts) := decEq _ _

variable {t : Token} {ts us : List Token} {d d' : Nat}

@[simp] theorem levels_nil (d : Nat) : levels d [] = some d := rfl

theorem levels_cons (d : Nat) (t : Token) (ts : List Token) :
    levels d (t :: ts) = (level d t).bind (levels · ts) := List.foldlM_cons

theorem levels_append (d : Nat) (ts us : List Token) :
    levels d (ts ++ us) = (levels d ts).bind (levels · us) := List.foldlM_append

theorem level_of_not_branching (h : t.isBranching = false) (d : Nat) : level d t = some d := by
  obtain ⟨y, line⟩ := t
  cases y with
  | directive name =>
    have hname : ¬(name = "if" ∨ name = "ifeq" ∨ name = "else" ∨ name = "endif") := by
      simpa [isBranching, Symbol.isDirectiveIn, conditionals, branchEnds, Directive.name] using h
    rw [not_or, not_or, not_or] at hname
    obtain ⟨hif, hifeq, helse, hendif⟩ := hname
    simp [level, isOtherwise, Symbol.isDirectiveIn, conditionals, Directive.name, hif, hifeq, helse,
      hendif]
  | _ => rfl

theorem levels_cons_of_not_branching (h : t.isBranching = false) (d : Nat) (ts : List Token) :
    levels d (t :: ts) = levels d ts := by
  rw [levels_cons, level_of_not_branching h, Option.bind_some]

theorem levels_of_forall (h : ∀ t ∈ ts, t.isBranching = false) (d : Nat) :
    levels d ts = some d := by
  induction ts with
  | nil => rfl
  | cons t ts ih =>
    obtain ⟨ht, hts⟩ := List.forall_mem_cons.mp h
    rw [levels_cons_of_not_branching ht, ih hts]

/-- A conditional that is not open is ended or divided. -/
theorem level_eq_none (h : level d t = none) :
    d = 0 ∧ (t.symbol = .directive Directive.endIf.name ∨ isOtherwise t = true) := by
  unfold level at h
  split at h
  · contradiction
  split at h
  · next hends =>
    split at h
    · next hd => exact ⟨hd, .inl hends⟩
    · contradiction
  split at h
  · next hdivides =>
    simp only [Bool.and_eq_true, beq_iff_eq] at hdivides
    exact ⟨hdivides.2, .inr hdivides.1⟩
  · contradiction

/-- The tokens do not end or divide a conditional that is not open, or there is a first one that
does. -/
theorem levels_cases (d : Nat) (ts : List Token) : (∃ d', levels d ts = some d') ∨
    ∃ us t rest, ts = us ++ t :: rest ∧ levels d us = some 0 ∧ level 0 t = none := by
  induction ts generalizing d with
  | nil => exact .inl ⟨d, rfl⟩
  | cons t ts ih =>
    cases hl : level d t with
    | none =>
      obtain rfl := (level_eq_none hl).1
      exact .inr ⟨[], t, ts, rfl, rfl, hl⟩
    | some l =>
      rw [levels_cons, hl, Option.bind_some]
      refine (ih l).imp_right ?_
      rintro ⟨us, t', rest, rfl, hus, ht'⟩
      refine ⟨t :: us, t', rest, rfl, ?_, ht'⟩
      rw [levels_cons, hl, Option.bind_some, hus]

/-- More open conditionals around make no difference. -/
theorem level_add (h : level d t = some d') (k : Nat) : level (d + k) t = some (d' + k) := by
  unfold level at h ⊢
  split at h
  · next hopens =>
    obtain rfl := Option.some.inj h
    rw [if_pos hopens]
    congr 1
    omega
  next hopens =>
  rw [if_neg hopens]
  split at h
  · next hends =>
    rw [if_pos hends]
    split at h
    · contradiction
    · obtain rfl := Option.some.inj h
      rw [if_neg (by omega)]
      congr 1
      omega
  next hends =>
  rw [if_neg hends]
  split at h
  · contradiction
  next hdivides =>
  obtain rfl := Option.some.inj h
  rw [if_neg]
  intro hdivides'
  simp only [Bool.and_eq_true, beq_iff_eq] at hdivides hdivides'
  exact hdivides ⟨hdivides'.1, by omega⟩

theorem levels_add (h : levels d ts = some d') (k : Nat) : levels (d + k) ts = some (d' + k) := by
  induction ts generalizing d with
  | nil =>
    obtain rfl := Option.some.inj h
    rfl
  | cons t ts ih =>
    rw [levels_cons, Option.bind_eq_some_iff] at h
    obtain ⟨l, ht, hts⟩ := h
    rw [levels_cons, level_add ht, Option.bind_some, ih hts]

theorem WellNested.levels (h : WellNested ts) (d : Nat) : Token.levels d ts = some d := by
  have hd := levels_add h d
  rwa [Nat.zero_add] at hd

theorem WellNested.append (h : WellNested ts) (h' : WellNested us) : WellNested (ts ++ us) := by
  unfold WellNested at h ⊢
  rw [levels_append, h, Option.bind_some, h']

theorem wellNested_cons (ht : t.isBranching = false) : WellNested (t :: ts) ↔ WellNested ts := by
  rw [WellNested, levels_cons_of_not_branching ht, WellNested]

end Token

/-- What stands behind some tokens of a text. -/
structure Tail where
  tokens : List Token
  fault : Option Failure := none

/-- The tokens of a text up to the tail, and then those of the tail. -/
def Tail.behind (r : Tail) (ts : List Token) (name : String) (line : Int) : Input :=
  ⟨name, ts ++ r.tokens, r.fault, line⟩

/-- The line of the last token read, after the tokens. -/
def Token.lineAfter (line : Int) (ts : List Token) : Int :=
  ts.foldl (fun line t => if 0 ≤ t.line then t.line else line) line

/-- The input behind the first token of the text. -/
theorem Tail.next_behind (r : Tail) (t : Token) (ts : List Token) (name : String) (line : Int) :
    ∃ rest, (r.behind (t :: ts) name line).next = .ok (some (t, rest)) ∧
      rest.input = r.behind ts name (Token.lineAfter line [t]) := ⟨_, rfl, rfl⟩

/-! ### Branches that are passed over -/

namespace Statement

/-- The directive that ends a branch that is passed over, and the input left behind it. -/
def skipped (own : Directive) (t : Token) (allow : Bool) (inner : Nat) (i : Input) :
    Except Failure (Token × Input) :=
  (skipBranch own t allow inner i).map fun p => (p.1, p.2.input)

variable {own : Directive} {t u : Token} {allow : Bool} {name : String} {line : Int}

theorem skipped_cons (inner : Nat) (r : Tail) (u : Token) (ts : List Token) :
    skipped own t allow inner (r.behind (u :: ts) name line) =
      match u.level inner with
      | some inner => skipped own t allow inner (r.behind ts name (Token.lineAfter line [u]))
      | none =>
        if isOtherwise u && !allow then .error (misuse t (r.behind [] name line) (.secondElse u.line))
        else .ok (u, r.behind ts name (Token.lineAfter line [u])) := by
  obtain ⟨rest, hnext, hrest⟩ := r.next_behind u ts name line
  have hskip (inner : Nat) : (skipBranch own t allow inner rest.input >>= fun p =>
      pure (f := Except Failure) (p.1, (rest.onward p.2).toRest)).map
        (fun p : Taken Token (r.behind (u :: ts) name line) => (p.1, p.2.input)) =
      skipped own t allow inner (r.behind ts name (Token.lineAfter line [u])) := by
    rw [← hrest, skipped]
    cases skipBranch own t allow inner rest.input <;> rfl
  rw [skipped, skipBranch.eq_def, hnext, Token.level]
  dsimp only [bind, Except.bind]
  split
  · exact hskip _
  split
  · next hends =>
    cases inner with
    | zero =>
      have hdivides : isOtherwise u = false := by
        rw [isOtherwise, hends]
        rfl
      rw [if_pos rfl, hdivides, ← hrest]
      rfl
    | succ inner => exact hskip inner
  · next hends =>
    by_cases hdivides : (isOtherwise u && inner == 0) = true
    · simp only [hdivides, if_true]
      simp only [Bool.and_eq_true] at hdivides
      cases allow
      · simp [hdivides.1]
        rfl
      · simp [hdivides.1, ← hrest]
        rfl
    · simp only [hdivides]
      exact hskip inner

/-- Tokens of a branch that is passed over, whatever comes behind them. -/
theorem skipped_behind {ts : List Token} {inner inner' : Nat}
    (h : Token.levels inner ts = some inner') (r : Tail) (line : Int) :
    skipped own t allow inner (r.behind ts name line) =
      skipped own t allow inner' (r.behind [] name (Token.lineAfter line ts)) := by
  induction ts generalizing inner line with
  | nil =>
    obtain rfl := Option.some.inj h
    rfl
  | cons u ts ih =>
    rw [Token.levels_cons, Option.bind_eq_some_iff] at h
    obtain ⟨l, hu, hts⟩ := h
    rw [skipped_cons, hu]
    exact ih hts _

end Statement

end CaseDict
