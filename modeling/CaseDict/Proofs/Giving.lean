import CaseDict.Proofs.Places
import CaseDict.Proofs.Unwatched
/-! # What reads give

What it takes for the reading of statements, of a conditional and of a directive to give a result,
part by part: the reads of one setup, with or without a watch. -/

namespace CaseDict

open Expansion Statement

section Parts

variable {σ α : Type} {i j : Input} {s u : σ} {a b : α}

theorem gives_pure {rest : i.Rest} :
    Gives (pure (a, rest) : ExceptT Failure (StateM σ) (Taken α i)) s b j u ↔
      b = a ∧ j = rest.input ∧ u = s := by
  constructor
  · rintro ⟨left, hx, rfl⟩
    cases hx
    exact ⟨rfl, rfl, rfl⟩
  · rintro ⟨rfl, rfl, rfl⟩
    exact ⟨rest, rfl, rfl⟩

theorem not_gives_throw {f : Failure} :
    ¬Gives (throw f : ExceptT Failure (StateM σ) (Taken α i)) s b j u := by
  rintro ⟨left, hx, -⟩
  cases hx

theorem not_gives_throw_bind {β : Type} {f : Failure}
    {k : β → ExceptT Failure (StateM σ) (Taken α i)} : ¬Gives (throw f >>= k) s b j u := by
  rintro ⟨left, hx, -⟩
  cases hx

theorem gives_bind {β : Type} {m : ExceptT Failure (StateM σ) β}
    {k : β → ExceptT Failure (StateM σ) (Taken α i)} :
    Gives (m >>= k) s a j u ↔ ∃ b t, exec m s = (.ok b, t) ∧ Gives (k b) t a j u := by
  constructor
  · rintro ⟨left, hx, rfl⟩
    obtain ⟨b, t, hm, hk⟩ := exec_bind_ok.mp hx
    exact ⟨b, t, hm, left, hk, rfl⟩
  · rintro ⟨b, t, hm, left, hk, rfl⟩
    exact ⟨left, exec_bind_ok.mpr ⟨b, t, hm, hk⟩, rfl⟩

theorem gives_bind_congr {β : Type} {m : ExceptT Failure (StateM σ) β}
    {k k' : β → ExceptT Failure (StateM σ) (Taken α i)}
    (h : ∀ b t, Gives (k b) t a j u ↔ Gives (k' b) t a j u) :
    Gives (m >>= k) s a j u ↔ Gives (m >>= k') s a j u := by
  rw [gives_bind, gives_bind]
  exact exists_congr fun b => exists_congr fun t => and_congr_right fun _ => h b t

theorem gives_lift {β : Type} {r : Except Failure β}
    {k : β → ExceptT Failure (StateM σ) (Taken α i)} :
    Gives (liftM r >>= k) s a j u ↔ ∃ b, r = .ok b ∧ Gives (k b) s a j u := by
  rw [gives_bind]
  constructor
  · rintro ⟨b, t, hr, hk⟩
    have hr := exec_lift_ok.mp hr
    exact ⟨b, hr.1, hr.2 ▸ hk⟩
  · rintro ⟨b, hr, hk⟩
    exact ⟨b, s, exec_lift_ok.mpr ⟨hr, rfl⟩, hk⟩

end Parts

variable {watch : Watch} {setup : Setup} {budget n : Nat} {run : DirectiveRunner} {i j : Input}
  {s u : ReadState}

/-! ### Statements -/

theorem Watched.gives_readEntries {closing : Option Heading} {stops : List String} {t : Token}
    {rest : i.Less} {a : Option Token} (hnext : i.next = .ok (some (t, rest))) :
    Gives (readEntries watch setup budget run n closing stops i) s a j u ↔
      if t.symbol = .closer .brace then
        closing.isSome = true ∧ a = some t ∧ j = rest.input ∧ u = s
      else if t.symbol = .terminator then
        Gives (readEntries watch setup budget run n closing stops rest.input) s a j u
      else if t.symbol.isDirectiveIn stops then a = some t ∧ j = rest.input ∧ u = s
      else ∃ es l v, Gives (readStatement watch setup budget run n t rest.input) s es l v ∧
        Gives (readEntries watch setup budget run n closing stops l) v a j u := by
  rw [readEntries.eq_def, gives_lift, hnext]
  simp only [Except.ok.injEq, exists_eq_left']
  split
  · split
    · next hsome => rw [gives_pure, and_iff_right hsome]; rfl
    · next hsome => exact ⟨fun h => absurd h not_gives_throw, fun h => absurd h.1 hsome⟩
  split
  · rw [gives_bind]
    constructor
    · rintro ⟨⟨b, more⟩, t, hx, hpure⟩
      obtain ⟨rfl, rfl, rfl⟩ := gives_pure.mp hpure
      exact ⟨more, hx, rfl⟩
    · rintro ⟨more, hx, rfl⟩
      exact ⟨_, _, hx, gives_pure.mpr ⟨rfl, rfl, rfl⟩⟩
  split
  · rw [gives_pure]; rfl
  · rw [gives_bind]
    constructor
    · rintro ⟨⟨es, more⟩, v, hstatement, hx⟩
      obtain ⟨⟨b, last⟩, t, hx, hpure⟩ := gives_bind.mp hx
      obtain ⟨rfl, rfl, rfl⟩ := gives_pure.mp hpure
      exact ⟨es, _, v, ⟨more, hstatement, rfl⟩, last, hx, rfl⟩
    · rintro ⟨es, _, v, ⟨more, hstatement, rfl⟩, last, hx, rfl⟩
      exact ⟨_, _, hstatement, gives_bind.mpr ⟨_, _, hx, gives_pure.mpr ⟨rfl, rfl, rfl⟩⟩⟩

theorem gives_readEntries {closing : Option Heading} {stops : List String} {t : Token}
    {rest : i.Less} {a : Option Token} (hnext : i.next = .ok (some (t, rest))) :
    Gives (readEntries setup budget run n closing stops i) s a j u ↔
      if t.symbol = .closer .brace then
        closing.isSome = true ∧ a = some t ∧ j = rest.input ∧ u = s
      else if t.symbol = .terminator then
        Gives (readEntries setup budget run n closing stops rest.input) s a j u
      else if t.symbol.isDirectiveIn stops then a = some t ∧ j = rest.input ∧ u = s
      else ∃ es l v, Gives (readStatement setup budget run n t rest.input) s es l v ∧
        Gives (readEntries setup budget run n closing stops l) v a j u := by
  simp only [← Watched.readEntries_never, ← Watched.readStatement_never (Watched.neverBelow _)]
  exact Watched.gives_readEntries hnext

/-- Places an entry. -/
def placing (e : Entry) (i : Input) : ReadM (Taken (List Entry) i) := do
  return (← place e, i.unread)

/-- Places entries. -/
def placingAll (es : List Entry) (i : Input) : ReadM (Taken (List Entry) i) := do
  return (← placeAll es, i.unread)

/-- Reads the rest of the statement that begins with `t` by `run` or `entry`, and places what it
brings. -/
def stated (setup : Setup) (run : Token → (i : Input) → ReadM (Taken (List Entry) i))
    (entry : Heading → (i : Input) → ReadM (Taken Entry i)) (t : Token) :
    (i : Input) → ReadM (Taken (List Entry) i) :=
  match t.symbol with
  | .directive _ => andThen (run t) placingAll
  | .reference name => andThen (splice setup name t) placingAll
  | .word s => andThen (entry ⟨s, false, t.line, -1⟩) placing
  | .quoted s => andThen (entry ⟨s, true, t.line, -1⟩) placing
  | _ => fun i => throw (.inText (.keywordExpected t.text) t.line i.name)

theorem Watched.gives_readStatement {t : Token} {es : List Entry} :
    Gives (readStatement watch setup budget run n t i) s es j u ↔ watch budget t = false ∧
      Gives (stated setup (run n) (readEntry watch setup budget run n) t i) s es j u := by
  rw [readStatement.eq_def]
  cases hw : watch budget t with
  | true => simp [not_gives_throw]
  | false =>
    rw [if_neg (by simp), gives_adapt, and_iff_right rfl]
    obtain ⟨y, line⟩ := t
    cases y <;>
      simp only [stated, andThen, placing, placingAll, bind_assoc, pure_bind] <;> rfl

theorem gives_readStatement {t : Token} {es : List Entry} :
    Gives (readStatement setup budget run n t i) s es j u ↔
      Gives (stated setup (run n) (readEntry setup budget run n) t i) s es j u := by
  have hentry : readEntry setup budget run n = Watched.readEntry .never setup budget run n := by
    funext h i
    exact (Watched.readEntry_never (Watched.neverBelow _) n h).symm
  rw [hentry, ← Watched.readStatement_never (Watched.neverBelow _), Watched.gives_readStatement]
  exact and_iff_right rfl

/-! ### References in place of a keyword -/

/-- The reference denotes a dictionary with entries that can be copied. -/
def Spliced (setup : Setup) (name : String) (s : ReadState) (es : List Entry) : Prop :=
  ∃ h, (s.surroundings setup).find? name = some (.dictionary h es) ∧
    (Entry.headingsOf es).findSome? Heading.failure? = none

/-- What is left of an input if a terminator may be left out. -/
def Input.Sheds (i j : Input) : Prop :=
  match i.next with
  | .ok (some (⟨.terminator, _⟩, rest)) => j = rest.input
  | .ok _ => j = i
  | .error _ => False

theorem gives_splice {name : String} {t : Token} {es : List Entry} :
    Gives (splice setup name t i) s es j u ↔ Spliced setup name s es ∧ i.Sheds j ∧ u = s := by
  have hbind {k : Surroundings → ReadM (Taken (List Entry) i)} :
      Gives (surroundings setup >>= k) s es j u ↔ Gives (k (s.surroundings setup)) s es j u := by
    have hrun : exec (surroundings setup) s = (.ok (s.surroundings setup), s) := rfl
    rw [Gives, Gives, exec_bind, hrun]
  have hcopies {es es' : List Entry} {rest : i.Rest} :
      Gives (do return (← es.mapM fun e => (liftM e.copy : ReadM Entry), rest)) s es' j u ↔
        ((Entry.headingsOf es).findSome? Heading.failure? = none ∧ es' = es) ∧
          j = rest.input ∧ u = s := by
    rw [gives_bind, exec_copies]
    cases (Entry.headingsOf es).findSome? Heading.failure? with
    | some f => simp
    | none => simp [gives_pure]
  unfold splice
  rw [hbind, gives_lift]
  unfold Surroundings.entry Spliced
  generalize s.surroundings setup = around
  rcases around.find? name with _ | ⟨h, ts⟩ | ⟨h, es'⟩
  · simp
  · simp [not_gives_throw]
  simp only [Except.ok.injEq, exists_eq_left', Option.some.injEq, Entry.dictionary.injEq]
  rw [gives_lift]
  have hspliced : (∃ h', (h = h' ∧ es' = es) ∧
      (Entry.headingsOf es).findSome? Heading.failure? = none) ↔
      (Entry.headingsOf es').findSome? Heading.failure? = none ∧ es = es' := by
    constructor
    · rintro ⟨_, ⟨rfl, rfl⟩, hnone⟩
      exact ⟨hnone, rfl⟩
    · rintro ⟨hnone, rfl⟩
      exact ⟨h, ⟨rfl, rfl⟩, hnone⟩
  rw [hspliced]
  unfold Input.Sheds
  rcases i.next with f | _ | ⟨⟨y, l⟩, rest⟩
  · simp
  · simp only [Except.ok.injEq, exists_eq_left']
    exact hcopies
  · simp only [Except.ok.injEq, exists_eq_left']
    cases y <;> exact hcopies

/-- Statements are read alike whether a terminator was left out before them or not. -/
theorem gives_readEntries_sheds {closing : Option Heading} {stops : List String}
    {a : Option Token} :
    (∃ l, i.Sheds l ∧ Gives (readEntries setup budget run n closing stops l) s a j u) ↔
      Gives (readEntries setup budget run n closing stops i) s a j u := by
  unfold Input.Sheds
  rcases hnext : i.next with f | _ | ⟨⟨y, l⟩, rest⟩
  · rw [readEntries.eq_def, hnext]
    simp [gives_lift]
  · simp
  · by_cases hy : y = .terminator
    · subst hy
      rw [gives_readEntries hnext, if_neg (by simp), if_pos rfl]
      simp
    · cases y <;> simp_all

theorem gives_placingAll {es es' : List Entry} :
    Gives (placingAll es i) s es' j u ↔ exec (placeAll es) s = (.ok es', u) ∧ j = i := by
  unfold placingAll
  rw [gives_bind]
  constructor
  · rintro ⟨b, t, hplace, hpure⟩
    obtain ⟨rfl, rfl, rfl⟩ := gives_pure.mp hpure
    exact ⟨hplace, rfl⟩
  · rintro ⟨hplace, rfl⟩
    exact ⟨_, _, hplace, gives_pure.mpr ⟨rfl, rfl, rfl⟩⟩

theorem gives_stated_reference {run' : Token → (i : Input) → ReadM (Taken (List Entry) i)}
    {entry : Heading → (i : Input) → ReadM (Taken Entry i)} {name : String} {line : Int}
    {es : List Entry} : Gives (stated setup run' entry ⟨.reference name, line⟩ i) s es j u ↔
      ∃ es', Spliced setup name s es' ∧ i.Sheds j ∧ exec (placeAll es') s = (.ok es, u) := by
  unfold stated
  rw [gives_andThen]
  simp only [gives_splice, gives_placingAll]
  constructor
  · rintro ⟨es', l, t, ⟨hspliced, hsheds, rfl⟩, hplace, rfl⟩
    exact ⟨es', hspliced, hsheds, hplace⟩
  · rintro ⟨es', hspliced, hsheds, hplace⟩
    exact ⟨es', j, s, ⟨hspliced, hsheds, rfl⟩, hplace, rfl⟩

/-- After a reference in place of a keyword the next statements are read alike, whether it is ended
or not. -/
theorem gives_readEntries_reference {closing : Option Heading} {stops : List String} {name : String}
    {line : Int} {es es' : List Entry} {t : ReadState} {a : Option Token}
    (hspliced : Spliced setup name s es') (hplace : exec (placeAll es') s = (.ok es, t)) :
    (∃ es l v, Gives (readStatement setup budget run n ⟨.reference name, line⟩ i) s es l v ∧
      Gives (readEntries setup budget run n closing stops l) v a j u) ↔
      Gives (readEntries setup budget run n closing stops i) t a j u := by
  rw [← gives_readEntries_sheds]
  simp only [gives_readStatement, gives_stated_reference]
  constructor
  · rintro ⟨es₁, l, v, ⟨es₂, ⟨h, hfind, -⟩, hsheds, hplace'⟩, hx⟩
    obtain ⟨h', hfind', -⟩ := hspliced
    cases hfind.symm.trans hfind'
    cases hplace.symm.trans hplace'
    exact ⟨l, hsheds, hx⟩
  · rintro ⟨l, hsheds, hx⟩
    exact ⟨es, l, t, ⟨es', hspliced, hsheds, hplace⟩, hx⟩

/-! ### Conditionals -/

/-- Reads a branch as a block. -/
def branch (entries : List String → (i : Input) → ReadM (Taken (Option Token) i)) (i : Input) :
    ReadM (Taken (Option Token × List Entry) i) := do
  let ((ending, rest), es) ← inBlock (entries branchEnds i)
  return ((ending, es), rest)

/-- Passes over a branch. -/
def passOver (own : Directive) (t : Token) (allow : Bool) (i : Input) : ReadM (Taken Token i) :=
  skipBranch own t allow 0 i

/-- What a branch brings that `ending` ends, with the branch behind an `#else` passed over. -/
def branched (own : Directive) (t : Token) (p : Option Token × List Entry) :
    (i : Input) → ReadM (Taken (List Entry) i) :=
  match p.1 with
  | none => fun i => throw (conditionalUnclosed own t i)
  | some ending =>
    if isOtherwise ending then andThen (passOver own t false) fun _ i => return (p.2, i.unread)
    else fun i => return (p.2, i.unread)

/-- What a branch behind an `#else` brings. -/
def branchedOtherwise (own : Directive) (t : Token) (p : Option Token × List Entry) :
    (i : Input) → ReadM (Taken (List Entry) i) :=
  match p.1 with
  | none => fun i => throw (conditionalUnclosed own t i)
  | some ending =>
    if isOtherwise ending then fun i => throw (misuse t i (.secondElse ending.line))
    else fun i => return (p.2, i.unread)

/-- What a conditional brings whose first branch `ending` ends and was passed over. -/
def passedOver (entries : List String → (i : Input) → ReadM (Taken (Option Token) i))
    (own : Directive) (t ending : Token) : (i : Input) → ReadM (Taken (List Entry) i) :=
  if isOtherwise ending then andThen (branch entries) (branchedOtherwise own t)
  else fun i => return ([], i.unread)

/-- Reads a conditional in parts. -/
def chosen (entries : List String → (i : Input) → ReadM (Taken (Option Token) i)) (own : Directive)
    (t : Token) (taken : Bool) : (i : Input) → ReadM (Taken (List Entry) i) :=
  if taken then andThen (branch entries) (branched own t)
  else andThen (passOver own t true) (passedOver entries own t)

theorem gives_passOver {own : Directive} {t e : Token} {allow : Bool} :
    Gives (passOver own t allow i) s e j u ↔ skipped own t allow 0 i = .ok (e, j) ∧ u = s := by
  unfold Gives passOver skipped
  simp only [exec_lift_ok]
  cases skipBranch own t allow 0 i with
  | error f => simp [Except.map]
  | ok p =>
    obtain ⟨found, rest⟩ := p
    simp only [Except.map, Except.ok.injEq, Prod.mk.injEq]
    constructor
    · rintro ⟨left, ⟨⟨rfl, rfl⟩, rfl⟩, rfl⟩
      exact ⟨⟨rfl, rfl⟩, rfl⟩
    · rintro ⟨⟨rfl, rfl⟩, rfl⟩
      exact ⟨rest, ⟨⟨rfl, rfl⟩, rfl⟩, rfl⟩

theorem gives_conditional
    {entries : List String → (i : Input) → ReadM (Taken (Option Token) i)} {own : Directive}
    {t : Token} {taken : Bool} {es : List Entry} :
    Gives (conditional entries own t taken i) s es j u ↔
      Gives (chosen entries own t taken i) s es j u := by
  unfold conditional chosen
  cases taken with
  | true =>
    simp only [if_true, andThen, branch, bind_assoc, pure_bind]
    refine gives_bind_congr fun p v => ?_
    obtain ⟨⟨_ | ending, rest⟩, es'⟩ := p
    · exact iff_of_false not_gives_throw not_gives_throw_bind
    · dsimp only [branched]
      split
      · simp only [andThen, passOver, bind_assoc, pure_bind]
        rfl
      · rfl
  | false =>
    simp only [Bool.false_eq_true, if_false, andThen, passOver]
    refine gives_bind_congr fun p v => ?_
    obtain ⟨ending, rest⟩ := p
    dsimp only [passedOver]
    split
    · simp only [andThen, branch, bind_assoc, pure_bind]
      refine gives_bind_congr fun p v => ?_
      obtain ⟨⟨_ | ending, rest⟩, es'⟩ := p
      · exact iff_of_false not_gives_throw not_gives_throw_bind
      · dsimp only [branchedOtherwise]
        split
        · exact iff_of_false not_gives_throw not_gives_throw_bind
        · rfl
    · rfl

/-! ### Directives -/

/-- The argument of a directive. -/
def argument (setup : Setup) (budget : Nat) (i : Input) : ReadM (Taken (List Token) i) :=
  expanding setup fun c => readArgument (reference c budget) (inline c budget) i

/-- The input mode that a word names. -/
def Setup.mode? (setup : Setup) (w : String) : Option InputMode :=
  if w = "default" then some setup.settings.mode else InputMode.ofName? w

theorem Input.expect_ok {what : String} {p : Token × i.Less} :
    i.expect what = .ok p ↔ i.next = .ok (some p) := by
  unfold Input.expect
  rcases i.next with f | _ | q
  · simp [bind, Except.bind]
  · simp [bind, Except.bind, throw, throwThe, MonadExceptOf.throw]
  · simp [bind, Except.bind, pure, Except.pure]

theorem gives_changeMode {t : Token} {es : List Entry} :
    Gives (changeMode setup t i) s es j u ↔ ∃ w l rest mode,
      i.next = .ok (some (⟨.word w, l⟩, rest)) ∧ setup.mode? w = some mode ∧
        es = [] ∧ j = rest.input ∧ u = { s with mode } := by
  have hset (mode : InputMode) (rest : i.Less) :
      Gives (do modify fun s => { s with mode }; return (([] : List Entry), rest.toRest) : ReadM _) s
        es j u ↔ es = [] ∧ j = rest.input ∧ u = { s with mode } := gives_pure
  unfold changeMode
  rw [gives_lift]
  simp only [Input.expect_ok]
  constructor
  · rintro ⟨⟨⟨y, l⟩, rest⟩, hnext, hg⟩
    cases y with
    | word w =>
      refine ⟨w, l, rest, ?_⟩
      unfold Setup.mode?
      dsimp only at hg
      split at hg
      · next hdefault => exact ⟨_, hnext, if_pos hdefault, (hset _ rest).mp hg⟩
      next hdefault =>
      split at hg
      · next mode hmode => exact ⟨mode, hnext, (if_neg hdefault).trans hmode, (hset _ rest).mp hg⟩
      · exact absurd hg not_gives_throw_bind
    | _ => exact absurd hg not_gives_throw
  · rintro ⟨w, l, rest, mode, hnext, hmode, hes⟩
    refine ⟨_, hnext, ?_⟩
    unfold Setup.mode? at hmode
    dsimp only
    split at hmode
    · next hdefault =>
      obtain rfl := Option.some.inj hmode
      rw [if_pos hdefault]
      exact (hset _ rest).mpr hes
    · next hdefault =>
      rw [if_neg hdefault, hmode]
      exact (hset _ rest).mpr hes

/-- What a file brings. -/
def included (setup : Setup) (entries : List String → (i : Input) → ReadM (Taken (Option Token) i)) :
    Option Path → (i : Input) → ReadM (Taken (List Entry) i)
  | none, i => return ([], i.unread)
  | some p, i => do
    let file ← expanding setup fun c => openFile c p
    let (_, es) ← inBlock (entries [] file)
    return (es, i.unread)

/-- Removes what the tokens name. -/
def removing (t : Token) (names : List Token) (i : Input) : ReadM (Taken (List Entry) i) := do
  remove t i names
  return ([], i.unread)

/-- A conditional whose condition was read. -/
def switched (entries : List String → (i : Input) → ReadM (Taken (Option Token) i)) (t : Token)
    (condition : List Token) : (i : Input) → ReadM (Taken (List Entry) i) :=
  match Switch.ofTokens condition with
  | none => fun i => throw (misuse t i (.notSwitch (Token.spaced condition)))
  | some taken => conditional entries .ifTrue t taken

/-- Runs a directive in parts. -/
def directed (setup : Setup) (budget : Nat)
    (entries : List String → (i : Input) → ReadM (Taken (Option Token) i)) (t : Token) :
    Directive → (i : Input) → ReadM (Taken (List Entry) i)
  | .includeFile optional =>
    andThen (fun i => expanding setup fun c => locate c optional t i) (included setup entries)
  | .ifEqual =>
    andThen (argument setup budget) fun left => andThen (argument setup budget) fun right =>
      conditional entries .ifEqual t (left.map Token.text == right.map Token.text)
  | .ifTrue => andThen (argument setup budget) (switched entries t)
  | .remove => andThen (argument setup budget) (removing t)
  | .inputMode => changeMode setup t
  | _ => fun i => throw (misuse t i .notAsKeyword)

theorem exec_remove_ok {t : Token} {i i' : Input} {names : List Token} {b : Unit} :
    exec (remove t i names) s = (.ok b, u) ↔ exec (remove t i' names) s = (.ok b, u) := by
  unfold remove
  extract_lets wanted rest
  split
  · simp
  · rfl

theorem Watched.gives_runDirective {t : Token} {es : List Entry} :
    Gives (runDirective watch setup (budget + 1) n t i) s es j u ↔
      ∃ d, setup.registry.get t.symbol.value t.line (some i.name) = .ok d ∧
        Gives (directed setup budget
          (readEntries watch setup budget (runDirective watch setup budget) n none) t d i) s es j
          u := by
  unfold runDirective
  rw [gives_lift]
  refine exists_congr fun d => and_congr_right fun _ => ?_
  cases d with
  | includeFile optional =>
    refine gives_bind_congr fun p v => ?_
    obtain ⟨_ | path, rest⟩ := p
    · rfl
    · simp only [included, bind_assoc, pure_bind]
      rfl
  | ifEqual =>
    simp only [directed, andThen, argument, bind_assoc, pure_bind]
    rfl
  | ifTrue =>
    refine gives_bind_congr fun p v => ?_
    obtain ⟨condition, rest⟩ := p
    dsimp only [switched]
    cases Switch.ofTokens condition with
    | none => exact iff_of_false not_gives_throw not_gives_throw_bind
    | some taken => rfl
  | remove =>
    refine gives_bind_congr fun p v => ?_
    obtain ⟨names, rest⟩ := p
    simp only [removing, bind_assoc, pure_bind, gives_bind]
    exact exists_congr fun _ => exists_congr fun _ => and_congr_left fun _ => exec_remove_ok
  | inputMode => rfl
  | otherwise | endIf | calculate | negate | blank =>
    exact iff_of_false not_gives_throw not_gives_throw

theorem gives_runDirective {t : Token} {es : List Entry} :
    Gives (runDirective setup (budget + 1) n t i) s es j u ↔
      ∃ d, setup.registry.get t.symbol.value t.line (some i.name) = .ok d ∧
        Gives (directed setup budget
          (readEntries setup budget (runDirective setup budget) n none) t d i) s es j u := by
  rw [← Watched.runDirective_never, ← Watched.runDirective_never, ← Watched.readEntries_never]
  exact Watched.gives_runDirective

end CaseDict
