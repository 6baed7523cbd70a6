import CaseDict.Proofs.Guarded
import CaseDict.Proofs.Sharing
/-! # Reads that no guard stops

A guarded read gives what the unguarded one gives, with the same failure if it fails, unless the
guard stops it (`Guarded.read_eq`). -/

namespace CaseDict

open Expansion Statement

variable {σ α β : Type}

/-- The guard stops a run with the failure. -/
def Guard.Stops (guard : Guard) (f : Failure) : Prop :=
  f = Watch.stopped ∧ ∃ e, guard e = true

/-- The second computation does what the first one does, unless a guard stops that one. -/
abbrev Spares (guard : Guard) (m m' : ExceptT Failure (StateM σ) α) : Prop :=
  Follows (.upTo guard.Stops) m m' Eq

namespace Spares

variable {guard : Guard} {m m' : ExceptT Failure (StateM σ) α}

theorem refl (m : ExceptT Failure (StateM σ) α) : Spares guard m m where
  ends s s' hs := by
    subst hs
    rcases exec m s with ⟨f | a, u⟩
    · exact .error trivial
    · exact .ok rfl rfl
  stays _ ha := by contradiction

theorem bind {k k' : α → ExceptT Failure (StateM σ) β} (hm : Spares guard m m')
    (hk : ∀ a, Spares guard (k a) (k' a)) : Spares guard (m >>= k) (m' >>= k') :=
  Follows.bind hm fun a _ hab => hab ▸ hk a

theorem before {k k' : α → ExceptT Failure (StateM σ) β} (hk : ∀ a, Spares guard (k a) (k' a)) :
    Spares guard (m >>= k) (m >>= k') := (refl m).bind hk

theorem after (hm : Spares guard m m') (k : α → ExceptT Failure (StateM σ) β) :
    Spares guard (m >>= k) (m' >>= k) := hm.bind fun a => refl (k a)

/-- What a guard looks at is only there under guard. -/
theorem met {r : Except Failure Unit} (hr : r = .ok () ∨ ∃ f, guard.Stops f ∧ r = .error f)
    (hm : Spares guard m m') : Spares guard (do liftM r; m) m' := by
  obtain rfl | ⟨f, hf, rfl⟩ := hr
  · exact hm
  · exact .left hf rfl

theorem adapt (hm : Spares guard m m') (name : String) :
    Spares guard (ExceptT.adapt (Failure.within name) m) (ExceptT.adapt (Failure.within name) m') :=
  Follows.adapt hm (fun _ _ => trivial) fun _ hf => ⟨Watch.stopped_within hf.1 name, hf.2⟩

/-- A computation that is run between entering a state and leaving it. -/
theorem between {n n' : ExceptT Failure (StateM σ) (α × β)} (enter : σ → σ)
    (leave : σ → σ → β × σ) (hm : Spares guard m m')
    (hn : ∀ s, exec n s = ((exec m (enter s)).1.map (·, (leave s (exec m (enter s)).2).1),
      (leave s (exec m (enter s)).2).2))
    (hn' : ∀ s, exec n' s = ((exec m' (enter s)).1.map (·, (leave s (exec m' (enter s)).2).1),
      (leave s (exec m' (enter s)).2).2)) : Spares guard n n' := by
  have h : Follows (.upTo guard.Stops) n n' fun p q => p.1 = q.1 ∧ p.2 = q.2 := by
    refine .between enter leave hm hn hn' ?_ ?_ (fun _ => ⟨id, id⟩) fun _ ha => by contradiction
    · rintro s s' rfl
      rfl
    · rintro s s' t t' rfl rfl
      exact ⟨rfl, rfl⟩
  exact h.mono fun p q hpq => Prod.ext hpq.1 hpq.2

theorem inDictionary {m m' : ReadM α} (hm : Spares guard m m') :
    Spares guard (inDictionary m) (inDictionary m') :=
  hm.between (fun s => { s with scope := s.scope.inner })
    (fun s t => (t.scope.entries, { t with scope := s.scope })) (fun _ => exec_inDictionary m)
    fun _ => exec_inDictionary m'

theorem inBlock {m m' : ReadM α} (hm : Spares guard m m') : Spares guard (inBlock m) (inBlock m') :=
  hm.between (fun s => { s with scope := .staged [] s.scope }) (fun _ t => Follows.leaveBlock t)
    (Follows.exec_inBlock_eq m) (Follows.exec_inBlock_eq m')

theorem expanding {setup : Setup} {act act' : Context → ExpandM α}
    (h : ∀ frames, Spares guard (act ⟨setup, frames⟩) (act' ⟨setup, frames⟩)) :
    Spares guard (Statement.expanding setup act) (Statement.expanding setup act') where
  ends s s' hs := by
    subst hs
    have h := (h s.scope.frames).ends s.log s.log rfl
    rw [exec_expanding, exec_expanding]
    generalize exec (act ⟨setup, s.scope.frames⟩) s.log = p,
      exec (act' ⟨setup, s.scope.frames⟩) s.log = p' at h ⊢
    cases h with
    | @ok _ _ t t' hab ht =>
      obtain rfl : t = t' := ht
      exact .ok hab rfl
    | error hf => exact .error hf
    | parted hf => exact .parted hf (.of_none rfl)
  stays _ ha := by contradiction

theorem meet (e : Encounter) (hm : Spares guard m m') :
    Spares guard (do Guarded.meet guard e; m) m' := by
  refine met ?_ hm
  unfold Guarded.meet
  split
  · next h => exact .inr ⟨_, ⟨rfl, e, h⟩, rfl⟩
  · exact .inl rfl

end Spares

/-! ### Sequences of tokens -/

section Sequences

variable {guard : Guard} {reference reference' : Token → String → ExpandM (List Token)}
  {inline inline' : Token → (i : Input) → ExpandM (Taken (List Token) i)}
  (href : ∀ t source, Spares guard (reference t source) (reference' t source))
  (hin : ∀ t i, Spares guard (inline t i) (inline' t i))

include href hin

theorem expandToken_spares (t : Token) (i : Input) :
    Spares guard (expandToken reference inline t i) (expandToken reference' inline' t i) := by
  unfold expandToken
  split
  · exact (href t i.name).after _
  · exact hin t i
  · exact .refl _

theorem expandAll_spares (i : Input) :
    Spares guard (expandAll reference inline i) (expandAll reference' inline' i) := by
  induction hn : i.size using Nat.strongRecOn generalizing i with
  | ind n ih =>
    rw [expandAll.eq_def, expandAll.eq_def reference']
    refine .before fun found => ?_
    rcases found with _ | ⟨t, rest⟩
    · exact .refl _
    · refine (expandToken_spares href hin t rest.input).bind fun ⟨ts, more⟩ => ?_
      exact (ih _ (hn ▸ Nat.lt_of_le_of_lt more.le rest.lt) _ rfl).after _

theorem readGroup_spares (o : Opening) (outer : List Opening) (i : Input) :
    Spares guard (readGroup reference inline o outer i) (readGroup reference' inline' o outer i) := by
  induction hn : i.size using Nat.strongRecOn generalizing i o outer with
  | ind n ih =>
    rw [readGroup.eq_def, readGroup.eq_def reference']
    refine .before fun ⟨t, rest⟩ => .before fun opened => ?_
    refine (expandToken_spares href hin t rest.input).bind fun ⟨ts, more⟩ => ?_
    cases opened with
    | nil => exact .refl _
    | cons o outer => exact (ih _ (hn ▸ Nat.lt_of_le_of_lt more.le rest.lt) o outer _ rfl).after _

theorem readArgument_spares (i : Input) :
    Spares guard (readArgument reference inline i) (readArgument reference' inline' i) := by
  unfold readArgument
  refine .before fun ⟨t, rest⟩ => ?_
  dsimp only
  split
  · exact .refl _
  · exact .refl _
  · exact (readGroup_spares href hin _ _ _).after _
  · exact (expandToken_spares href hin t rest.input).after _

theorem readValue_spares (opened : List Opening) (i : Input) :
    Spares guard (readValue reference inline opened i) (readValue reference' inline' opened i) := by
  induction hn : i.size using Nat.strongRecOn generalizing i opened with
  | ind n ih =>
    rw [readValue.eq_def, readValue.eq_def reference']
    refine .before fun found => ?_
    rcases found with _ | ⟨t, rest⟩
    · exact .refl _
    dsimp only
    split
    · exact .refl _
    · refine .before fun opened => ?_
      refine (expandToken_spares href hin t rest.input).bind fun ⟨ts, more⟩ => ?_
      exact (ih _ (hn ▸ Nat.lt_of_le_of_lt more.le rest.lt) opened _ rfl).after _

end Sequences

namespace Guarded

variable {guard : Guard}

/-! ### Expansion -/

section Expansion

variable {c : Context}

theorem calculate_spares (t : Token) (i : Input) :
    Spares guard (calculate guard c t i) (Expansion.calculate c t i) := by
  unfold calculate Expansion.calculate
  refine .before fun ⟨⟨y, line⟩, rest⟩ => ?_
  dsimp -zeta only
  extract_lets evaluate evaluate'
  have hevaluate (source : String) : Spares guard (evaluate source) (evaluate' source) :=
    .before fun expression => .meet _ (.refl _)
  cases y <;> exact .before hevaluate

theorem candidates_spares (source : String) (name : Path) :
    Spares guard (candidates guard c source name) (Expansion.candidates c source name) := by
  unfold candidates Expansion.candidates
  split
  · exact .refl _
  · exact .before fun _ => .meet _ (.refl _)

theorem firstFile_spares (places : List Path) :
    Spares guard (firstFile guard c places) (Expansion.firstFile c places) := by
  induction places with
  | nil => exact .refl _
  | cons p places ih =>
    refine .before fun _ => .meet _ (.before fun found => ?_)
    split
    · exact .refl _
    · exact ih

theorem locate_spares (optional : Bool) (t : Token) (i : Input) :
    Spares guard (locate guard c optional t i) (Expansion.locate c optional t i) := by
  unfold locate Expansion.locate
  refine .before fun ⟨⟨y, line⟩, rest⟩ => ?_
  dsimp -zeta only
  extract_lets find find'
  have hfind (raw : String) : Spares guard (find raw) (find' raw) := by
    refine .before fun name => (candidates_spares i.name _).bind fun places => ?_
    exact (firstFile_spares places).after _
  cases y <;> exact .before hfind

theorem meetVariable_cases (name : String) : meetVariable guard c name = .ok () ∨
    ∃ f, guard.Stops f ∧ meetVariable guard c name = .error f := by
  unfold meetVariable meet
  split
  · split
    · next h => exact .inr ⟨_, ⟨rfl, _, h⟩, rfl⟩
    · exact .inl rfl
  · exact .inl rfl

/-- References and directives in values, under guard and without. -/
theorem expansion_spares (n : Nat) :
    (∀ t source, Spares guard (reference guard c n t source) (Expansion.reference c n t source)) ∧
      ∀ t i, Spares guard (inline guard c n t i) (Expansion.inline c n t i) := by
  induction n with
  | zero => exact ⟨fun _ _ => .refl _, fun _ _ => .refl _⟩
  | succ n ih =>
    obtain ⟨href, hin⟩ := ih
    constructor
    · intro t source
      unfold reference Expansion.reference
      refine .met (meetVariable_cases _) (.before fun ts => ?_)
      split
      · exact expandAll_spares href hin _
      · exact .refl _
    · intro t i
      unfold inline Expansion.inline
      refine .before fun d => ?_
      cases d with
      | calculate => exact calculate_spares t i
      | negate => exact (readArgument_spares href hin i).after _
      | includeFile optional =>
        refine (locate_spares optional t i).bind ?_
        rintro ⟨found, rest⟩
        cases found with
        | none => exact .refl _
        | some p => exact .meet _ (.before fun file => (expandAll_spares href hin file).after _)
      | _ => exact .refl _

end Expansion

/-! ### Statements -/

section Statements

variable {setup : Setup} {budget : Nat} {run run' : DirectiveRunner} {i : Input}

theorem readPrimitive_spares (h : Heading) :
    Spares guard (readEntry.readPrimitive guard setup budget h i)
      (Statement.readEntry.readPrimitive setup budget h i) := by
  unfold readEntry.readPrimitive Statement.readEntry.readPrimitive readTokens Statement.readTokens
  refine (Spares.expanding fun frames => ?_).after _
  obtain ⟨href, hin⟩ := expansion_spares budget
  exact readValue_spares href hin [] i

theorem splice_spares (nesting : Nat) (name : String) (t : Token) :
    Spares guard (splice guard setup nesting name t i) (Statement.splice setup name t i) where
  ends s s' hs := by
    subst hs
    have hsurroundings : exec (Statement.surroundings setup) s = (.ok (s.surroundings setup), s) := rfl
    rw [splice, exec_bind, hsurroundings]
    dsimp only
    split
    · exact ((Spares.refl _).meet _).ends s s rfl
    · exact (Spares.refl _).ends s s rfl
  stays _ ha := by contradiction

/-- Inputs with fewer than `size` tokens are read as without the guard. -/
abbrev SparesBelow (guard : Guard) (setup : Setup) (budget : Nat) (run run' : DirectiveRunner)
    (size : Nat) : Prop :=
  ∀ i : Input, i.size < size → ∀ n closing stops,
    Spares guard (readEntries guard setup budget run n closing stops i)
      (Statement.readEntries setup budget run' n closing stops i)

theorem readEntry_spares (hbelow : SparesBelow guard setup budget run run' i.size) (n : Nat)
    (h : Heading) : Spares guard (readEntry guard setup budget run n h i)
      (Statement.readEntry setup budget run' n h i) := by
  rw [readEntry.eq_def, Statement.readEntry.eq_def]
  refine .before fun found => ?_
  rcases found with _ | ⟨⟨y, line⟩, rest⟩
  · exact .refl _
  cases y with
  | opener b =>
    cases b with
    | brace =>
      dsimp only
      split
      · exact .refl _
      · exact .before fun k => (hbelow _ rest.lt _ _ _).inDictionary.after _
    | round | square => exact readPrimitive_spares h
  | reference name =>
    refine .before fun around => ?_
    rcases around.find? name with _ | ⟨_, _⟩ | ⟨target, es⟩
    · exact readPrimitive_spares h
    · exact readPrimitive_spares h
    · exact .meet _ (.refl _)
  | _ => exact readPrimitive_spares h

variable (hrun : ∀ n t i, Spares guard (run n t i) (run' n t i))

include hrun

theorem readStatement_spares (hbelow : SparesBelow guard setup budget run run' i.size) (n : Nat)
    (t : Token) : Spares guard (readStatement guard setup budget run n t i)
      (Statement.readStatement setup budget run' n t i) := by
  rw [readStatement.eq_def, Statement.readStatement.eq_def]
  refine .adapt (.meet _ ?_) i.name
  obtain ⟨y, line⟩ := t
  cases y with
  | directive => exact (hrun _ _ _).after _
  | reference => exact (splice_spares _ _ _).after _
  | word | quoted => exact (readEntry_spares hbelow _ _).after _
  | _ => exact .refl _

theorem sparesBelow (size : Nat) : SparesBelow guard setup budget run run' size := by
  -- A statement and what comes after it are read from less input.
  induction size with
  | zero => intro i h; omega
  | succ size ih =>
    intro i hlt n closing stops
    rw [readEntries.eq_def, Statement.readEntries.eq_def]
    refine .before fun found => ?_
    rcases found with _ | ⟨t, rest⟩
    · exact .refl _
    have hless := rest.lt
    dsimp only
    split
    · exact .refl _
    split
    · exact (ih rest.input (by omega) _ _ _).after _
    split
    · exact .refl _
    · refine (readStatement_spares hrun (fun j hj => ih j (by omega)) _ _).bind fun ⟨_, more⟩ => ?_
      have hle := more.le
      exact (ih more.input (by omega) _ _ _).after _

omit hrun in
theorem conditional_spares
    {entries entries' : List String → (i : Input) → ReadM (Taken (Option Token) i)}
    (he : ∀ stops i, Spares guard (entries stops i) (entries' stops i)) (own : Directive) (t : Token)
    (taken : Bool) (i : Input) :
    Spares guard (conditional entries own t taken i) (conditional entries' own t taken i) := by
  unfold conditional
  split
  · exact (he _ i).inBlock.after _
  · refine .before fun ⟨ending, rest⟩ => ?_
    dsimp only
    split
    · exact (he _ _).inBlock.after _
    · exact .refl _

end Statements

variable {setup : Setup}

theorem runDirective_spares (budget n : Nat) (t : Token) (i : Input) :
    Spares guard (runDirective guard setup budget n t i) (Statement.runDirective setup budget n t i) := by
  induction budget generalizing n t i with
  | zero => exact .refl _
  | succ budget ih =>
    have hentries closing stops (i : Input) : Spares guard
        (readEntries guard setup budget (runDirective guard setup budget) n closing stops i)
        (Statement.readEntries setup budget (Statement.runDirective setup budget) n closing stops i) :=
      sparesBelow ih _ i (Nat.lt_succ_self _) n closing stops
    have hargument (i : Input) : Spares guard
        (expanding setup fun c => readArgument (reference guard c budget) (inline guard c budget) i)
        (expanding setup fun c =>
          readArgument (Expansion.reference c budget) (Expansion.inline c budget) i) :=
      .expanding fun frames => by
        obtain ⟨href, hin⟩ := expansion_spares budget
        exact readArgument_spares href hin i
    unfold runDirective Statement.runDirective
    refine .before fun d => ?_
    cases d with
    | includeFile optional =>
      refine (Spares.expanding fun _ => locate_spares optional t i).bind ?_
      rintro ⟨found, rest⟩
      cases found with
      | none => exact .refl _
      | some p => exact .meet _ (.before fun file => (hentries _ _ _).inBlock.after _)
    | ifEqual =>
      refine (hargument i).bind ?_
      rintro ⟨left, first⟩
      refine (hargument first.input).bind ?_
      rintro ⟨right, second⟩
      exact (conditional_spares (hentries none) _ _ _ _).after _
    | ifTrue =>
      refine (hargument i).bind ?_
      rintro ⟨condition, rest⟩
      dsimp only
      cases Switch.ofTokens condition with
      | none => exact .refl _
      | some taken => exact (conditional_spares (hentries none) _ _ _ _).after _
    | remove =>
      refine (hargument i).bind ?_
      rintro ⟨names, rest⟩
      exact .meet _ (.refl _)
    | _ => exact .refl _

variable (guard setup) in
theorem entries_spares (i : Input) :
    Spares guard (entries guard setup i) (Reader.entries setup 0 0 none [] i) :=
  sparesBelow (runDirective_spares _) _ i (Nat.lt_succ_self _) 0 none []

/-- A guarded read that no guard stops comes to what the unguarded one comes to. -/
theorem read_eq_or_stops (i : Input) :
    (read guard setup i).1 = (Reader.read setup i).1 ∨
      ∃ f, guard.Stops f ∧ (read guard setup i).1 = .error f := by
  have hguarded : read guard setup i =
      ((exec (entries guard setup i) (Reader.start setup)).1.map
        (Reader.made i (exec (entries guard setup i) (Reader.start setup)).2),
        (exec (entries guard setup i) (Reader.start setup)).2.log) := rfl
  have hends := (entries_spares guard setup i).ends (Reader.start setup) _ rfl
  rw [hguarded, Reader.read_eq]
  generalize exec (entries guard setup i) (Reader.start setup) = p,
    exec (Reader.entries setup 0 0 none [] i) (Reader.start setup) = q at hends ⊢
  cases hends with
  | @ok _ _ s s' hab hs =>
    obtain rfl : s = s' := hs
    rw [hab]
    exact .inl rfl
  | error => exact .inl rfl
  | parted hf => exact .inr ⟨_, hf, rfl⟩

/-- A guarded read that is not stopped comes to what the unguarded one comes to. -/
theorem read_eq {i : Input} (h : ¬setup.ComesTo guard i) :
    (read guard setup i).1 = (Reader.read setup i).1 := by
  refine (read_eq_or_stops i).resolve_right fun ⟨f, hf, hstopped⟩ => h ?_
  rw [Setup.ComesTo, hstopped, hf.1]

/-- Nothing is guarded against. -/
theorem read_unguarded {i : Input} (h : ∀ e, guard e = false) :
    (read guard setup i).1 = (Reader.read setup i).1 := by
  refine (read_eq_or_stops i).resolve_right fun ⟨f, hf, _⟩ => ?_
  obtain ⟨e, he⟩ := hf.2
  exact absurd (h e) (by rw [he]; decide)

end Guarded

end CaseDict
