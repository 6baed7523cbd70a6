import CaseDict.Proofs.Fuelled
/-! # Every read ends

With enough fuel the reader with fuel comes to what the reader without comes to (`Reaches`). Each
function is shown to by the measure of its recursion: the depth that is left for references and
directives, then the tokens that are left in the input. -/

namespace CaseDict.Fuelled

open Expansion Statement

variable {σ α β γ δ : Type}

/-- With enough fuel `f` comes to what `m` comes to, and its result is seen through `g`. -/
def Reaches (g : β → α) (f : Nat → FuelM σ α) (m : ExceptT Failure (StateM σ) β) : Prop :=
  ∀ s visits, ∃ bound visits', ∀ fuel ≥ bound,
    run (f fuel) s visits = some ((exec m s).1.map g, (exec m s).2, visits')

namespace Reaches

variable {g : β → α} {g' : δ → γ} {f : Nat → FuelM σ α} {m : ExceptT Failure (StateM σ) β}
  {k : Nat → α → FuelM σ γ} {k' : β → ExceptT Failure (StateM σ) δ}

/-- A computation that takes no fuel. -/
theorem of_run {act : FuelM σ α}
    (h : ∀ s visits, ∃ visits', run act s visits =
      some ((exec m s).1.map g, (exec m s).2, visits')) : Reaches g (fun _ => act) m := by
  intro s visits
  obtain ⟨visits', h⟩ := h s visits
  exact ⟨0, visits', fun _ _ => h⟩

theorem pure {a : α} {b : β} (h : g b = a) :
    Reaches g (fun _ => Pure.pure a : Nat → FuelM σ α) (Pure.pure b) :=
  .of_run fun _ visits => ⟨visits, h ▸ run_pure a⟩

theorem throw (f : Failure) :
    Reaches g (fun _ => MonadExcept.throw f : Nat → FuelM σ α) (MonadExcept.throw f) :=
  .of_run fun _ visits => ⟨visits, run_throw f⟩

theorem lift (r : Except Failure α) :
    Reaches id (fun _ => liftM r : Nat → FuelM σ α) (liftM r) :=
  .of_run fun s visits => ⟨visits, by rw [run_lift, exec_lift]; cases r <;> rfl⟩

theorem plain (m : ExceptT Failure (StateM σ) α) : Reaches id (fun _ => Fuelled.plain m) m :=
  .of_run fun s visits => ⟨visits, by rw [run_plain]; cases (exec m s).1 <;> rfl⟩

/-- Only the result is seen otherwise. -/
theorem plain_map (g : β → α) (m : ExceptT Failure (StateM σ) β) :
    Reaches g (fun _ => do return g (← Fuelled.plain m)) m :=
  .of_run fun s visits => ⟨visits, by
    rw [run_bind, run_plain]
    rcases exec m s with ⟨_ | b, t⟩ <;> rfl⟩

/-- A call takes a unit of fuel. -/
theorem of_succ (h : Reaches g (fun fuel => f (fuel + 1)) m) : Reaches g f m := by
  intro s visits
  obtain ⟨bound, visits', h⟩ := h s visits
  refine ⟨bound + 1, visits', fun fuel hfuel => ?_⟩
  obtain ⟨n, rfl⟩ := Nat.exists_eq_add_of_le' hfuel
  exact h (n + bound) (Nat.le_add_left ..)

theorem bind (hf : Reaches g f m) (hk : ∀ b, Reaches g' (fun fuel => k fuel (g b)) (k' b)) :
    Reaches g' (fun fuel => f fuel >>= k fuel) (m >>= k') := by
  intro s visits
  obtain ⟨bound, visits', hf⟩ := hf s visits
  rw [exec_bind]
  rcases hm : exec m s with ⟨e | b, t⟩
  · refine ⟨bound, visits', fun fuel hfuel => ?_⟩
    rw [run_bind, hf fuel hfuel, hm]
    rfl
  · obtain ⟨bound', visits'', hk⟩ := hk b t visits'
    refine ⟨max bound bound', visits'', fun fuel hfuel => ?_⟩
    rw [run_bind, hf fuel (Nat.le_trans (Nat.le_max_left ..) hfuel), hm]
    exact hk fuel (Nat.le_trans (Nat.le_max_right ..) hfuel)

/-- What is done with a result without a computation may be done in one reader only. -/
theorem map {g' : γ → α} {h : β → γ} (hf : Reaches g f m) (hg : ∀ b, g' (h b) = g b) :
    Reaches g' f (m >>= fun b => Pure.pure (h b)) := by
  intro s visits
  obtain ⟨bound, visits', hf⟩ := hf s visits
  refine ⟨bound, visits', fun fuel hfuel => ?_⟩
  rw [hf fuel hfuel, exec_bind]
  rcases exec m s with ⟨e | b, t⟩
  · rfl
  · dsimp only
    rw [exec_pure, Except.map, Except.map, hg]

/-- Noting a visit changes nothing else. -/
theorem noted (hf : Reaches g f m) (v : Visit) :
    Reaches g (fun fuel => do note v; f fuel) m := by
  intro s visits
  obtain ⟨bound, visits', hf⟩ := hf s (visits ++ [v])
  refine ⟨bound, visits', fun fuel hfuel => ?_⟩
  rw [run_bind, run_note]
  exact hf fuel hfuel

theorem adapt (hf : Reaches g f m) (h : Failure → Failure) :
    Reaches g (fun fuel => ExceptT.adapt h (f fuel)) (ExceptT.adapt h m) := by
  intro s visits
  obtain ⟨bound, visits', hf⟩ := hf s visits
  refine ⟨bound, visits', fun fuel hfuel => ?_⟩
  rw [run_adapt, hf fuel hfuel, exec_adapt]
  rcases exec m s with ⟨e | b, t⟩ <;> rfl

theorem expanding {setup : Setup} {f : Nat → Context → FuelM (List Event) α}
    {m : Context → ExpandM β} (hf : ∀ frames, Reaches g (fun fuel => f fuel ⟨setup, frames⟩)
      (m ⟨setup, frames⟩)) :
    Reaches g (fun fuel => Fuelled.expanding setup (f fuel)) (Statement.expanding setup m) := by
  intro s visits
  obtain ⟨bound, visits', hf⟩ := hf s.scope.frames s.log visits
  refine ⟨bound, visits', fun fuel hfuel => ?_⟩
  rw [run_expanding, hf fuel hfuel, exec_expanding]
  rfl

theorem between {enter : σ → σ} {leave : σ → σ → γ × σ}
    {n : ExceptT Failure (StateM σ) (β × γ)} (hf : Reaches g f m)
    (hn : ∀ s, exec n s = ((exec m (enter s)).1.map (·, (leave s (exec m (enter s)).2).1),
      (leave s (exec m (enter s)).2).2)) :
    Reaches (fun p : β × γ => (g p.1, p.2)) (fun fuel => Fuelled.between enter leave (f fuel))
      n := by
  intro s visits
  obtain ⟨bound, visits', hf⟩ := hf (enter s) visits
  refine ⟨bound, visits', fun fuel hfuel => ?_⟩
  rw [run_between, hf fuel hfuel, hn]
  rcases exec m (enter s) with ⟨e | b, t⟩ <;> rfl

end Reaches

/-! ### Expansion -/

/-- A result of the reader without fuel, with the input that is left. -/
def taken {i : Input} (p : Taken α i) : α × Input := (p.1, p.2.input)

section Sequences

variable {c : Context} {depth : Int}
  {reference : Token → String → ExpandM (List Token)}
  {inline : Token → (i : Input) → ExpandM (Taken (List Token) i)}
  (href : ∀ t source,
    Reaches id (fun fuel => Fuelled.reference c fuel (depth + 1) t source) (reference t source))
  (hin : ∀ t i, Reaches taken (fun fuel => Fuelled.inline c fuel (depth + 1) t i) (inline t i))

include href hin

theorem reaches_expandToken (t : Token) (i : Input) :
    Reaches taken (fun fuel => expandToken c fuel depth t i)
      (Expansion.expandToken reference inline t i) := by
  refine .of_succ ?_
  obtain ⟨symbol, line⟩ := t
  cases symbol with
  | reference name => exact .bind (href _ i.name) fun ts => .pure rfl
  | directive name => exact hin _ i
  | _ => exact .pure rfl

theorem reaches_expandAll (i : Input) :
    Reaches id (fun fuel => expandAll c fuel depth i)
      (Expansion.expandAll reference inline i) := by
  induction hn : i.size using Nat.strongRecOn generalizing i with
  | ind n ih =>
    refine .of_succ ?_
    rw [Expansion.expandAll.eq_def]
    refine .bind (.lift i.next) fun found => ?_
    cases found with
    | none => exact .pure rfl
    | some p =>
      obtain ⟨t, rest⟩ := p
      refine .bind (reaches_expandToken href hin t rest.input) fun ⟨ts, more⟩ => ?_
      have hlt : more.input.size < n := hn ▸ Nat.lt_of_le_of_lt more.le rest.lt
      exact .bind (ih _ hlt more.input rfl) fun us => .pure rfl

theorem reaches_readGroup (o : Opening) (outer : List Opening) (i : Input) :
    Reaches taken (fun fuel => readGroup c fuel depth o outer i)
      (Expansion.readGroup reference inline o outer i) := by
  induction hn : i.size using Nat.strongRecOn generalizing i o outer with
  | ind n ih =>
    refine .of_succ ?_
    rw [Expansion.readGroup.eq_def]
    refine .bind (.lift (i.expect _)) fun ⟨t, rest⟩ => ?_
    refine .bind (.lift (track (o :: outer) t i.name)) fun opened => ?_
    refine .bind (reaches_expandToken href hin t rest.input) fun ⟨ts, more⟩ => ?_
    have hlt : more.input.size < n := hn ▸ Nat.lt_of_le_of_lt more.le rest.lt
    cases opened with
    | nil => exact .pure rfl
    | cons o outer => exact .bind (ih _ hlt o outer more.input rfl) fun ⟨us, last⟩ => .pure rfl

theorem reaches_readArgument (i : Input) :
    Reaches taken (fun fuel => readArgument c fuel depth i)
      (Expansion.readArgument reference inline i) := by
  refine .of_succ ?_
  unfold Expansion.readArgument
  refine .bind (.lift (i.expect _)) fun ⟨⟨symbol, line⟩, rest⟩ => ?_
  have htoken (t : Token) : Reaches taken (fun fuel => expandToken c fuel depth t rest.input)
      (Expansion.expandToken reference inline t rest.input) := reaches_expandToken href hin _ _
  cases symbol with
  | terminator | closer => exact .throw _
  | opener b =>
    exact .bind (reaches_readGroup href hin ⟨b, line⟩ [] rest.input) fun ⟨ts, more⟩ => .pure rfl
  | _ => exact .map (htoken _) fun _ => rfl

theorem reaches_readValue (opened : List Opening) (i : Input) :
    Reaches taken (fun fuel => readValue c fuel depth opened i)
      (Expansion.readValue reference inline opened i) := by
  induction hn : i.size using Nat.strongRecOn generalizing i opened with
  | ind n ih =>
    refine .of_succ ?_
    rw [Expansion.readValue.eq_def]
    refine .bind (.lift i.next) fun found => ?_
    cases found with
    | none =>
      cases opened with
      | nil => exact .pure rfl
      | cons o outer => exact .throw _
    | some p =>
      obtain ⟨t, rest⟩ := p
      dsimp only [id]
      by_cases hend : t.symbol = .terminator ∧ opened.isEmpty
      · simp only [if_pos hend]
        exact .pure rfl
      · simp only [if_neg hend]
        refine .bind (.lift (track opened t i.name)) fun opened => ?_
        refine .bind (reaches_expandToken href hin t rest.input) fun ⟨ts, more⟩ => ?_
        have hlt : more.input.size < n := hn ▸ Nat.lt_of_le_of_lt more.le rest.lt
        exact .bind (ih _ hlt opened more.input rfl) fun ⟨⟨us, endLine⟩, last⟩ => .pure rfl

end Sequences

theorem liftM_bind (r : Except Failure α) (k : α → Except Failure β) :
    (liftM (r >>= k) : ExceptT Failure (StateM σ) β) = liftM r >>= fun a => liftM (k a) := by
  cases r <;> rfl

/-- The depth is checked. -/
theorem reaches_checkDepth {c : Context} {depth : Int} {t : Token} {source : String}
    {m : ExceptT Failure (StateM σ) β} {g : β → α} {k : Nat → FuelM σ α}
    (hdeep : c.setup.settings.maxExpansion < depth → m = throw (c.tooDeep t source))
    (hk : depth ≤ c.setup.settings.maxExpansion → Reaches g k m) :
    Reaches g (fun fuel => do checkDepth c depth t source; k fuel) m := by
  unfold checkDepth
  by_cases h : c.setup.settings.maxExpansion < depth
  · simp only [if_pos h]
    rw [hdeep h]
    exact .throw _
  · simp only [if_neg h]
    exact hk (Int.not_lt.mp h)

theorem budget_eq_zero {settings : Settings} {depth : Int} :
    settings.budget depth = 0 ↔ settings.maxExpansion < depth + 1 := by
  unfold Settings.budget
  omega

theorem budget_eq_succ {settings : Settings} {depth : Int} {n : Nat} :
    settings.budget depth = n + 1 ↔
      depth + 1 ≤ settings.maxExpansion ∧ settings.budget (depth + 1) = n := by
  unfold Settings.budget
  omega

/-- References and directives that may nest `n` deep are expanded with enough fuel. -/
theorem reaches_expansion (c : Context) {n : Nat} {depth : Int}
    (hn : c.setup.settings.budget depth = n) :
    (∀ t source, Reaches id (fun fuel => Fuelled.reference c fuel (depth + 1) t source)
      (Expansion.reference c n t source)) ∧
    ∀ t i, Reaches taken (fun fuel => Fuelled.inline c fuel (depth + 1) t i)
      (Expansion.inline c n t i) := by
  -- One step deeper there is one less left, and at the limit both readers fail.
  induction n generalizing depth with
  | zero =>
    have hdeep := budget_eq_zero.mp hn
    refine ⟨fun t source => .of_succ (.noted (reaches_checkDepth (fun _ => rfl) ?_) _),
      fun t i => .of_succ (reaches_checkDepth (fun _ => rfl) ?_)⟩
    · exact fun h => absurd hdeep (Int.not_lt.mpr h)
    · exact fun h => absurd hdeep (Int.not_lt.mpr h)
  | succ n ih =>
    obtain ⟨hle, hnext⟩ := budget_eq_succ.mp hn
    obtain ⟨href, hin⟩ := ih hnext
    constructor
    · intro t source
      refine .of_succ (.noted (reaches_checkDepth (fun h => absurd hle (Int.not_le.mpr h)) ?_) _)
      intro _
      refine .bind (.lift _) fun ts => ?_
      dsimp only [id]
      split
      · exact reaches_expandAll href hin _
      · exact .pure rfl
    · intro t i
      refine .of_succ (reaches_checkDepth (fun h => absurd hle (Int.not_le.mpr h)) fun _ => ?_)
      refine .bind (.lift _) fun d => ?_
      cases d with
      | calculate => exact .plain_map taken _
      | negate =>
        refine .bind (reaches_readArgument href hin i) fun ⟨argument, rest⟩ => ?_
        obtain _ | ⟨⟨symbol, line⟩, _ | ⟨u, us⟩⟩ := argument
        · exact .throw _
        · cases symbol with
          | number x => exact .pure rfl
          | _ => exact .throw _
        · cases symbol <;> exact .throw _
      | includeFile optional =>
        refine .bind (.plain _) fun ⟨found, rest⟩ => ?_
        cases found with
        | none => exact .pure rfl
        | some p =>
          refine .bind (.plain _) fun file => ?_
          exact .bind (reaches_expandAll href hin file) fun ts => .pure rfl
      | _ => exact .throw _

/-! ### Statements -/

section Statements

variable {setup : Setup} {depth : Int}

theorem reaches_inDictionary {g : β → α} {f : Nat → FuelM ReadState α} {m : ReadM β}
    (h : Reaches g f m) : Reaches (fun p : β × List Entry => (g p.1, p.2))
      (fun fuel => inDictionary (f fuel)) (Statement.inDictionary m) :=
  .between h fun _ => exec_inDictionary m

theorem reaches_inBlock {g : β → α} {f : Nat → FuelM ReadState α} {m : ReadM β}
    (h : Reaches g f m) : Reaches (fun p : β × List Entry => (g p.1, p.2))
      (fun fuel => inBlock (f fuel)) (Statement.inBlock m) :=
  .between h (Follows.exec_inBlock_eq m)

theorem reaches_readTokens (setup : Setup) (depth : Int) (i : Input) :
    Reaches taken (fun fuel => expanding setup fun c => readValue c fuel depth [] i)
      (readTokens setup (setup.settings.budget depth) i) := by
  refine .expanding fun frames => ?_
  obtain ⟨href, hin⟩ := reaches_expansion ⟨setup, frames⟩ (n := setup.settings.budget depth) rfl
  exact reaches_readValue href hin [] i

theorem reaches_argument (setup : Setup) (depth : Int) (i : Input) :
    Reaches taken (fun fuel => expanding setup fun c => readArgument c fuel depth i)
      (Statement.expanding setup fun c => Expansion.readArgument
        (Expansion.reference c (setup.settings.budget depth))
        (Expansion.inline c (setup.settings.budget depth)) i) := by
  refine .expanding fun frames => ?_
  obtain ⟨href, hin⟩ := reaches_expansion ⟨setup, frames⟩ (n := setup.settings.budget depth) rfl
  exact reaches_readArgument href hin i

theorem reaches_readPrimitive (setup : Setup) (depth : Int) (h : Heading) (i : Input) :
    Reaches taken (fun fuel => readPrimitive setup fuel depth h i)
      (readEntry.readPrimitive setup (setup.settings.budget depth) h i) := by
  refine .bind (reaches_readTokens setup depth i) fun ⟨⟨ts, endLine⟩, rest⟩ => ?_
  exact .bind (.lift _) fun h => .pure rfl

theorem reaches_skipBranch (own : Directive) (t : Token) (allowOtherwise : Bool) (inner : Nat)
    (i : Input) : Reaches taken (fun fuel => skipBranch own t allowOtherwise fuel inner i)
      (liftM (Statement.skipBranch own t allowOtherwise inner i)) := by
  induction hn : i.size using Nat.strongRecOn generalizing i inner with
  | ind n ih =>
    refine .of_succ ?_
    rw [Statement.skipBranch.eq_def, liftM_bind]
    refine .bind (.lift i.next) fun found => ?_
    cases found with
    | none => exact .throw _
    | some p =>
      obtain ⟨found, rest⟩ := p
      have hskip (inner : Nat) : Reaches (taken (i := i))
          (fun fuel => skipBranch own t allowOtherwise fuel inner rest.input)
          (liftM (do
            let p ← Statement.skipBranch own t allowOtherwise inner rest.input
            return (p.1, (rest.onward p.2).toRest))) := by
        rw [liftM_bind]
        exact .map (ih _ (hn ▸ rest.lt) inner rest.input rfl) fun _ => rfl
      dsimp only [id]
      by_cases hopens : found.symbol.isDirectiveIn conditionals
      · simp only [if_pos hopens]
        exact hskip (inner + 1)
      · simp only [if_neg hopens]
        by_cases hends : found.symbol = .directive Directive.endIf.name
        · simp only [if_pos hends]
          cases inner with
          | zero => exact .pure rfl
          | succ inner => exact hskip inner
        · simp only [if_neg hends]
          by_cases helse : (isOtherwise found && inner == 0) = true
          · simp only [if_pos helse]
            cases allowOtherwise
            · exact .throw _
            · exact .pure rfl
          · simp only [if_neg helse]
            exact hskip inner

section Reading

variable {run : DirectiveRunner} {i : Input}
  (hentries : ∀ j : Input, j.size < i.size → ∀ nesting closing stops,
    Reaches taken (fun fuel => readEntries setup fuel depth nesting closing stops j)
      (Statement.readEntries setup (setup.settings.budget depth) run nesting closing stops j))

include hentries

theorem reaches_readEntry (nesting : Nat) (h : Heading) :
    Reaches taken (fun fuel => readEntry setup fuel depth nesting h i)
      (Statement.readEntry setup (setup.settings.budget depth) run nesting h i) := by
  refine .of_succ ?_
  rw [Statement.readEntry.eq_def]
  have hprimitive := reaches_readPrimitive setup depth h i
  refine .bind (.lift i.next) fun found => ?_
  obtain _ | ⟨⟨symbol, line⟩, rest⟩ := found
  · exact .bind (.lift _) fun h => .pure rfl
  · cases symbol with
    | opener b =>
      cases b with
      | brace =>
        dsimp only [id]
        split
        · exact .throw _
        · refine .bind (.lift _) fun h => ?_
          have hinside := reaches_inDictionary (hentries _ rest.lt (nesting + 1) (some h) [])
          exact .bind hinside fun ⟨⟨ending, more⟩, es⟩ => .pure rfl
      | _ => exact hprimitive
    | reference name =>
      refine .bind (.plain _) fun around => ?_
      dsimp only [id]
      obtain _ | ⟨h, ts⟩ | ⟨h, es⟩ := around.find? name
      · exact hprimitive
      · exact hprimitive
      · exact .bind (.plain _) fun ⟨e, more⟩ => .pure rfl
    | _ => exact hprimitive

theorem reaches_readStatement (hrun : ∀ nesting t i,
    Reaches taken (fun fuel => runDirective setup fuel (depth + 1) nesting t i) (run nesting t i))
    (nesting : Nat) (t : Token) :
    Reaches taken (fun fuel => readStatement setup fuel depth nesting t i)
      (Statement.readStatement setup (setup.settings.budget depth) run nesting t i) := by
  refine .of_succ ?_
  rw [Statement.readStatement.eq_def]
  refine .adapt ?_ _
  have hentry (h : Heading) := reaches_readEntry hentries nesting h
  obtain ⟨symbol, line⟩ := t
  cases symbol with
  | directive name =>
    exact .bind (hrun _ _ i) fun ⟨es, rest⟩ => .bind (.plain _) fun placed => .pure rfl
  | reference name =>
    exact .bind (.plain _) fun ⟨es, rest⟩ => .bind (.plain _) fun placed => .pure rfl
  | word | quoted =>
    exact .bind (hentry _) fun ⟨e, rest⟩ => .bind (.plain _) fun placed => .pure rfl
  | _ => exact .throw _

end Reading

theorem reaches_readEntries {run : DirectiveRunner} (hrun : ∀ nesting t i,
    Reaches taken (fun fuel => runDirective setup fuel (depth + 1) nesting t i) (run nesting t i))
    (nesting : Nat) (closing : Option Heading) (stops : List String) (i : Input) :
    Reaches taken (fun fuel => readEntries setup fuel depth nesting closing stops i)
      (Statement.readEntries setup (setup.settings.budget depth) run nesting closing stops i) := by
  induction hn : i.size using Nat.strongRecOn generalizing i nesting closing stops with
  | ind n ih =>
    refine .of_succ ?_
    rw [Statement.readEntries.eq_def]
    refine .bind (.lift i.next) fun found => ?_
    obtain _ | ⟨t, rest⟩ := found
    · cases closing with
      | none => exact .pure rfl
      | some h => exact .throw _
    · dsimp only [id]
      have hlt : rest.input.size < n := hn ▸ rest.lt
      by_cases hbrace : t.symbol = .closer .brace
      · simp only [if_pos hbrace]
        cases closing with
        | none => exact .throw _
        | some h => exact .pure rfl
      · simp only [if_neg hbrace]
        by_cases hend : t.symbol = .terminator
        · simp only [if_pos hend]
          exact .map (ih _ hlt nesting closing stops rest.input rfl) fun _ => rfl
        · simp only [if_neg hend]
          by_cases hstop : t.symbol.isDirectiveIn stops
          · simp only [if_pos hstop]
            exact .pure rfl
          · simp only [if_neg hstop]
            refine .bind (reaches_readStatement (fun j hj _ _ _ => ?_) hrun nesting t)
              fun ⟨es, more⟩ => ?_
            · exact ih _ (Nat.lt_trans hj hlt) _ _ _ j rfl
            · refine .map (ih _ ?_ nesting closing stops more.input rfl) fun _ => rfl
              exact Nat.lt_of_le_of_lt more.le hlt

/-! ### Directives -/

theorem reaches_conditional {entries : List String → (i : Input) → ReadM (Taken (Option Token) i)}
    {nesting : Nat} (hentries : ∀ stops i, Reaches taken
      (fun fuel => readEntries setup fuel depth nesting none stops i) (entries stops i))
    (own : Directive) (t : Token) (holds : Bool) (i : Input) :
    Reaches taken (fun fuel => conditional setup fuel depth nesting own t holds i)
      (Statement.conditional entries own t holds i) := by
  refine .of_succ ?_
  cases holds with
  | true =>
    refine .bind (reaches_inBlock (hentries branchEnds i)) fun ⟨⟨ending, rest⟩, es⟩ => ?_
    cases ending with
    | none => exact .throw _
    | some found =>
      dsimp only [taken]
      split
      · exact .bind (reaches_skipBranch own t false 0 rest.input) fun ⟨_, more⟩ => .pure rfl
      · exact .pure rfl
  | false =>
    refine .bind (reaches_skipBranch own t true 0 i) fun ⟨ending, rest⟩ => ?_
    dsimp only [taken]
    split
    · refine .bind (reaches_inBlock (hentries branchEnds rest.input)) fun ⟨⟨ending, more⟩, es⟩ => ?_
      cases ending with
      | none => exact .throw _
      | some found =>
        dsimp only [taken]
        split
        · exact .throw _
        · exact .pure rfl
    · exact .pure rfl

theorem reaches_runDirective {n : Nat} (hn : setup.settings.budget depth = n) (nesting : Nat)
    (t : Token) (i : Input) :
    Reaches taken (fun fuel => runDirective setup fuel (depth + 1) nesting t i)
      (Statement.runDirective setup n nesting t i) := by
  induction n generalizing depth nesting t i with
  | zero =>
    have hdeep := budget_eq_zero.mp hn
    refine .of_succ (reaches_checkDepth (fun _ => rfl) fun h => ?_)
    exact absurd hdeep (Int.not_lt.mpr h)
  | succ n ih =>
    obtain ⟨hle, rfl⟩ := budget_eq_succ.mp hn
    have hentries (closing : Option Heading) (stops : List String) (i : Input) :=
      reaches_readEntries (ih rfl) nesting closing stops i
    have hargument := reaches_argument setup (depth + 1)
    refine .of_succ (reaches_checkDepth (fun h => absurd hle (Int.not_le.mpr h)) fun _ => ?_)
    refine .bind (.lift _) fun d => ?_
    cases d with
    | includeFile optional =>
      refine .bind (.plain _) fun ⟨found, rest⟩ => ?_
      cases found with
      | none => exact .pure rfl
      | some p =>
        refine .bind (.plain _) fun file => ?_
        exact .bind (reaches_inBlock (hentries none [] file)) fun ⟨_, es⟩ => .pure rfl
    | ifEqual =>
      refine .bind (hargument i) fun ⟨left, first⟩ => ?_
      refine .bind (hargument first.input) fun ⟨right, second⟩ => ?_
      exact .map (reaches_conditional (hentries none) _ t _ _) fun _ => rfl
    | ifTrue =>
      refine .bind (hargument i) fun ⟨condition, rest⟩ => ?_
      dsimp only [taken]
      cases Switch.ofTokens condition with
      | none => exact .throw _
      | some holds => exact .map (reaches_conditional (hentries none) _ t _ _) fun _ => rfl
    | remove =>
      refine .bind (hargument i) fun ⟨names, rest⟩ => ?_
      exact .bind (.plain _) fun _ => .pure rfl
    | inputMode => exact .plain_map taken _
    | _ => exact .throw _

end Statements

/-- **Every read ends**: from some amount of fuel on a read never runs out of it, and comes to the
result and the events of the reader without fuel. -/
theorem read_ends (setup : Setup) (i : Input) :
    ∃ bound visits, ∀ fuel ≥ bound, read setup fuel i = some (Reader.read setup i, visits) := by
  have hentries : Reaches taken (fun fuel => readEntries setup fuel 0 0 none [] i)
      (Reader.entries setup 0 0 none [] i) :=
    reaches_readEntries (reaches_runDirective rfl) 0 none [] i
  obtain ⟨bound, visits, h⟩ := hentries (Reader.start setup) []
  refine ⟨bound, visits, fun fuel hfuel => ?_⟩
  rw [read, h fuel hfuel, Reader.read_eq]
  rcases exec (Reader.entries setup 0 0 none [] i) (Reader.start setup) with ⟨_ | p, s⟩ <;> rfl

end CaseDict.Fuelled
