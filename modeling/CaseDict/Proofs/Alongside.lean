import CaseDict.Proofs.Modes
import CaseDict.Proofs.Positions
/-! # Reads under other files

Without an inclusion and in one input mode, what is read does not depend on the files
(`Setup.Alongside.reading`). So two texts under two sets of files come to the same if both come to
the same position and do so from there on (`Comes.accord`). -/

namespace CaseDict

open Expansion Statement Entry

/-- The setup with other files. -/
def Setup.holding (setup : Setup) (files : Files) : Setup := { setup with files }

/-- Values are literal, and the tokens that are read satisfy `K`. -/
abbrev Vocabulary.only (K : Token → Prop) : Vocabulary :=
  .literal K (fun _ => True) fun _ _ => trivial

/-- Both reads are in the mode `m`. -/
abbrev InputMode.Both (m mode mode' : InputMode) : Prop := mode = m ∧ mode' = m

/-- Reads of tokens that satisfy `K`, in the mode `m`, take the same course under other files. -/
abbrev Setup.Alongside (setup : Setup) (files : Files) (K : Token → Prop) (m : InputMode) : Prop :=
  SharedCourses .same (.only K) m.Both setup (setup.holding files)

variable {setup : Setup} {files : Files} {K : Token → Prop} {m : InputMode} {budget n : Nat}
  {name : String} {closing : Option Heading} {stops : List String} {fault : Option Failure}
  {s u : ReadState} {i : Input} {α : Type}

/-- The state is one of a read in the mode `m`. -/
structure ReadState.Keeps (m : InputMode) (s : ReadState) : Prop where
  mode : s.mode = m
  carries : s.scope.Carries Token.AllLiteral

namespace ReadState.Keeps

variable (hs : s.Keeps m)

include hs

theorem rel : (Link.same.sharing Token.AllLiteral m.Both).rel s s :=
  ⟨rfl, hs.carries, ⟨hs.mode, hs.mode⟩, rfl⟩

theorem inner : Keeps m { s with scope := s.scope.inner } := ⟨hs.mode, hs.carries.inner⟩

theorem block (log : List Event) : Keeps m ⟨.staged [] s.scope, s.mode, log⟩ :=
  ⟨hs.mode, List.forall_mem_nil _, hs.carries⟩

theorem leaveBlock :
    AllCarry Token.AllLiteral (Follows.leaveBlock s).1 ∧ (Follows.leaveBlock s).2.Keeps m := by
  obtain ⟨hbelow, hes⟩ := Follows.carries_leaveBlock hs.carries
  exact ⟨hes, (Follows.leaveBlock_log s).2.trans hs.mode, hbelow⟩

end ReadState.Keeps

/-! ### What comes to the same -/

/-- Known tokens are left to be read, in the mode of the read. -/
def Leaving (K : Token → Prop) (m : InputMode) (post : α → Prop)
    (q : Except Failure (α × Input) × ReadState) : Prop :=
  ∀ a j, q.1 = .ok (a, j) → post a ∧ (∀ t ∈ j.tokens, K t) ∧ q.2.Keeps m

theorem Leaving.error {f : Failure} {post : α → Prop} : Leaving K m post (.error f, u) :=
  fun _ _ h => by contradiction

/-- Statements are read to the same, and known tokens are left. -/
structure Accord (K : Token → Prop) (m : InputMode)
    (p q : Except Failure (Option Token × Input) × ReadState) : Prop where
  agree : Agree p q
  leaves : Leaving K m (fun _ => True) q

/-- A conditional comes to the same, and known tokens are left. -/
structure Meeting (K : Token → Prop) (m : InputMode)
    (p q : Except Failure (List Entry × Input) × ReadState) : Prop where
  concur : Concur p q
  leaves : Leaving K m (AllCarry Token.AllLiteral) q

theorem Agree.leaving {p q : Except Failure (Option Token × Input) × ReadState} (h : Agree p q)
    (hp : Leaving K m (fun _ => True) p) : Leaving K m (fun _ => True) q := by
  cases h with
  | same => exact hp
  | failed => exact .error
  | ended name line line' u =>
    rintro a j hj
    cases hj
    exact ⟨trivial, List.forall_mem_nil _, (hp _ _ rfl).2.2⟩

theorem Accord.between {p p' q q' : Except Failure (Option Token × Input) × ReadState}
    (h : Accord K m p q) (hp : Agree p' p) (hq : Agree q q') : Accord K m p' q' :=
  ⟨hp.trans (h.agree.trans hq), hq.leaving h.leaves⟩

/-- What follows each other in the mode comes to the same. -/
theorem ReadState.Keeps.concur {act act' : ReadM (Taken α i)} {post : α → Prop} (hs : s.Keeps m)
    (h : Follows (Link.same.sharing Token.AllLiteral m.Both) act act'
      (Leaves (.only K) (Same post))) :
    Concur (outcome act s) (outcome act' s) ∧ Leaving K m post (outcome act' s) := by
  have hends := h.ends s s hs.rel
  unfold outcome
  generalize exec act s = p, exec act' s = p' at hends ⊢
  cases hends with
  | @ok a b u u' hab hrel =>
    obtain ⟨a, rest⟩ := a
    obtain ⟨b, rest'⟩ := b
    obtain ⟨⟨hsame, hpost⟩, hrest, hknown⟩ := hab
    obtain rfl : a = b := hsame
    obtain rfl : rest = rest' := hrest
    obtain ⟨scope, mode, log⟩ := u
    obtain ⟨scope', mode', log'⟩ := u'
    obtain ⟨hscope, hcarries, ⟨hmode, hmode'⟩, hlog⟩ := hrel
    dsimp only at hscope hmode hmode'
    subst hscope hmode hmode'
    obtain rfl : log = log' := hlog
    refine ⟨.same _, fun c j hj => ?_⟩
    cases hj
    exact ⟨hpost, hknown.tokens, rfl, hcarries⟩
  | error => exact ⟨.failed _ _ _, .error⟩
  | parted hf => exact hf.elim

/-- An operation stays in the mode. -/
theorem ReadState.Keeps.stays {act act' : ReadM α} {post : α → α → Prop} (hs : s.Keeps m)
    (h : Follows (Link.same.sharing Token.AllLiteral m.Both) act act' post) {a : α}
    (hact : exec act s = (.ok a, u)) : u.Keeps m := by
  have hends := h.ends s s hs.rel
  rw [hact] at hends
  generalize exec act' s = p' at hends
  cases hends with
  | ok _ hrel => exact ⟨hrel.2.2.1.1, hrel.2.1⟩

theorem Concur.eq_of_ok {a : α} {q : Except Failure α × ReadState} (h : Concur (.ok a, u) q) :
    q = (.ok a, u) := by
  cases h with
  | same => rfl

/-! ### Statements, arguments and conditions -/

section Alongside

variable (C : setup.Alongside files K m) (hs : s.Keeps m)

include C hs

/-- **Statements are read alike under other files.** -/
theorem Setup.Alongside.concur (budget n : Nat) (closing : Option Heading) (stops : List String)
    (hi : ∀ t ∈ i.tokens, K t) : Concur (reading setup budget n closing stops i s)
        (reading (setup.holding files) budget n closing stops i s) ∧
      Leaving K m (fun _ => True) (reading (setup.holding files) budget n closing stops i s) := by
  have hbudget : (Link.same : Link (List Event)).Limited .expansionOverflow budget budget :=
    .inl rfl
  have hfollows := C.readEntries (x := ()) hbudget (C.runs hbudget) ⟨hi, fun _ _ => trivial⟩ n
    closing stops
  rw [Watched.runDirective_never, Watched.readEntries_never] at hfollows
  exact hs.concur hfollows

theorem Setup.Alongside.accord (budget n : Nat) (closing : Option Heading) (stops : List String)
    (hi : ∀ t ∈ i.tokens, K t) : Accord K m (reading setup budget n closing stops i s)
      (reading (setup.holding files) budget n closing stops i s) := by
  obtain ⟨hconcur, hleaves⟩ := C.concur hs budget n closing stops hi
  exact ⟨hconcur.agree, hleaves⟩

variable {ts : List Token} (hts : ∀ t ∈ ts, K t) (hend : K .endIf)

include hts hend

/-- Statements that lead to a state lead to it under other files. -/
theorem ReadsTo.alongside (h : ReadsTo setup budget n name ts s u) :
    ReadsTo (setup.holding files) budget n name ts s u ∧ u.Keeps m := by
  have hclosed : ∀ t ∈ ts ++ [.endIf], K t :=
    List.forall_mem_append.mpr ⟨hts, List.forall_mem_singleton.mpr hend⟩
  have hread (line : Int) : ∃ a j, Gives (readEntries (setup.holding files) budget
      (runDirective (setup.holding files) budget) n none branchEnds
        ⟨name, ts ++ [.endIf], none, line⟩) s a j u ∧ u.Keeps m := by
    obtain ⟨a, j, hg⟩ := h.reads line
    obtain ⟨hconcur, hleaves⟩ := C.concur hs budget n none branchEnds
      (i := ⟨name, ts ++ [.endIf], none, line⟩) hclosed
    rw [reading, outcome_eq_ok.mpr hg] at hconcur
    have heq := hconcur.eq_of_ok
    rw [heq] at hleaves
    exact ⟨a, j, outcome_eq_ok.mp heq, (hleaves a j rfl).2.2⟩
  refine ⟨⟨h.nested, fun line => ?_⟩, ?_⟩
  · obtain ⟨a, j, hg, -⟩ := hread line
    exact ⟨a, j, hg⟩
  · obtain ⟨-, -, -, hu⟩ := hread 0
    exact hu

/-- An argument is the same under other files. -/
theorem ReadsArgument.alongside {c : List Token} {log : List Event}
    (h : ReadsArgument setup budget name ts c s log) :
    ReadsArgument (setup.holding files) budget name ts c s log := by
  have hclosed : ∀ t ∈ ts ++ [.endIf], K t :=
    List.forall_mem_append.mpr ⟨hts, List.forall_mem_singleton.mpr hend⟩
  intro line
  have hbudget : (Link.same : Link (List Event)).Limited .expansionOverflow budget budget :=
    .inl rfl
  have hconcur : Concur (outcome (argument setup budget ⟨name, ts ++ [.endIf], none, line⟩) s)
      (outcome (argument (setup.holding files) budget ⟨name, ts ++ [.endIf], none, line⟩) s) :=
    (hs.concur (C.argument (x := ()) hbudget ⟨hclosed, fun _ _ => trivial⟩)).1
  rw [outcome_eq_ok.mpr (h line)] at hconcur
  exact outcome_eq_ok.mp hconcur.eq_of_ok

/-- A condition is the same under other files. -/
theorem Opens.alongside {t : Token} {taken : Bool} {log : List Event} {d : Directive}
    (h : Opens setup budget name t taken s log d ts) :
    Opens (setup.holding files) budget name t taken s log d ts := by
  cases h with
  | ifTrue ht hargument hc => exact .ifTrue ht (hargument.alongside C hs hts hend) hc
  | @ifEqual ts us left right log' ht hleft hright htaken =>
    obtain ⟨hts, hus⟩ := List.forall_mem_append.mp hts
    have hs' : ReadState.Keeps m { s with log := log' } := ⟨hs.mode, hs.carries⟩
    exact .ifEqual ht (hleft.alongside C hs hts hend) (hright.alongside C hs' hus hend) htaken

end Alongside

/-! ### Dictionaries and branches -/

section Behind

variable (C : setup.Alongside files K m) (hs : s.Keeps m) {rest rest' : List Token} {line : Int}

include C hs

/-- Placing a dictionary stays in the mode. -/
theorem keeps_place {h : Heading} {es placed : List Entry} (hes : AllCarry Token.AllLiteral es)
    (hplace : exec (place (.dictionary h es)) s = (.ok placed, u)) : u.Keeps m :=
  hs.stays (Courses.place (x := ()) C (.dictionary ⟨rfl, fun _ => trivial⟩ ⟨rfl, hes⟩)) hplace

/-- Placing what a directive brings stays in the mode. -/
theorem keeps_placeAll {es placed : List Entry} (hes : AllCarry Token.AllLiteral es)
    (hplace : exec (placeAll es) s = (.ok placed, u)) : u.Keeps m :=
  hs.stays (Courses.placeAll (x := ()) C ⟨rfl, hes⟩) hplace

/-- Texts come to the same that come to the same behind the opening of a dictionary. -/
theorem accord_dictionary {k : Token} {x : String} {p : Bool} {l : Int}
    (hk : k.symbol = keywordSymbol x p) (hp : p = true → Pattern.fault? x = none)
    (hn : n < setup.settings.maxNesting)
    (hinside : ∀ line closing, Accord K m
      (reading setup budget (n + 1) closing [] ⟨name, rest, fault, line⟩
        { s with scope := s.scope.inner })
      (reading (setup.holding files) budget (n + 1) closing [] ⟨name, rest', fault, line⟩
        { s with scope := s.scope.inner })) :
    Accord K m
      (reading setup budget n closing stops ⟨name, k :: ⟨.opener .brace, l⟩ :: rest, fault, line⟩ s)
      (reading (setup.holding files) budget n closing stops
        ⟨name, k :: ⟨.opener .brace, l⟩ :: rest', fault, line⟩ s) := by
  have hn' : n < (setup.holding files).settings.maxNesting := hn
  obtain ⟨hagree, hleaves⟩ := hinside (lineAfter (lineAfter line [k]) [⟨.opener .brace, l⟩])
    (some ⟨x, p, k.line, -1⟩)
  unfold reading at hagree hleaves ⊢
  rw [readEntries_dictionary hk hp hn, readEntries_dictionary hk hp hn']
  generalize outcome (readEntries setup budget _ (n + 1) _ [] ⟨name, rest, fault, _⟩) _ = q,
    outcome (readEntries (setup.holding files) budget _ (n + 1) _ [] ⟨name, rest', fault, _⟩) _ = q'
      at hagree hleaves ⊢
  cases hagree with
  | failed => exact ⟨.failed _ _ _, .error⟩
  | same =>
    obtain ⟨f | ⟨a, j⟩, v⟩ := q
    · exact ⟨.failed _ _ _, .error⟩
    obtain ⟨-, hj, hv⟩ := hleaves a j rfl
    have hbehind : ReadState.Keeps m { v with scope := s.scope } := ⟨hv.mode, hs.carries⟩
    dsimp only
    rcases hplace : exec (place _) { v with scope := s.scope } with ⟨f | placed, v'⟩
    · exact ⟨.failed _ _ _, .error⟩
    · exact C.accord (keeps_place C hbehind hv.carries.entries hplace) budget n closing stops hj
  | ended source l l' v =>
    obtain ⟨-, hj, hv⟩ := hleaves none _ rfl
    have hbehind : ReadState.Keeps m { v with scope := s.scope } := ⟨hv.mode, hs.carries⟩
    dsimp only
    rcases hplace : exec (place _) { v with scope := s.scope } with ⟨f | placed, v'⟩
    · exact ⟨.failed _ _ _, .error⟩
    · exact (C.accord (keeps_place C hbehind hv.carries.entries hplace) budget n closing stops
        hj).between (agree_line (by simp) l l') (.same _)

omit hs in
/-- What a directive brings, and what is behind it, comes to the same if what the directive comes to
does. -/
theorem accord_directive {t : Token} {x : String} (ht : t.symbol = .directive x)
    (hstops : t.symbol.isDirectiveIn stops = false) {ts ts' : List Token}
    (hmeeting : Meeting K m
      (outcome (runDirective setup budget n t ⟨name, ts, fault, lineAfter line [t]⟩) s)
      (outcome (runDirective (setup.holding files) budget n t
        ⟨name, ts', fault, lineAfter line [t]⟩) s)) :
    Accord K m (reading setup budget n closing stops ⟨name, t :: ts, fault, line⟩ s)
      (reading (setup.holding files) budget n closing stops ⟨name, t :: ts', fault, line⟩ s) := by
  obtain ⟨hconcur, hleaves⟩ := hmeeting
  unfold reading
  rw [readEntries_directive ht hstops, readEntries_directive ht hstops]
  generalize outcome (runDirective setup budget n t _) s = q,
    outcome (runDirective (setup.holding files) budget n t _) s = q' at hconcur hleaves ⊢
  cases hconcur with
  | failed => exact ⟨.failed _ _ _, .error⟩
  | same =>
    obtain ⟨f | ⟨es, j⟩, v⟩ := q
    · exact ⟨.failed _ _ _, .error⟩
    obtain ⟨hes, hj, hv⟩ := hleaves es j rfl
    dsimp only
    rcases hplace : exec (placeAll es) v with ⟨f | placed, v'⟩
    · exact ⟨.failed _ _ _, .error⟩
    · exact C.accord (keeps_placeAll C hv hes hplace) budget n closing stops hj

end Behind

section Conditionals

variable {own : Token} {d : Directive} {rest rest' us : List Token} {line : Int}

theorem known_skipped {e : Token} {allow : Bool} {inner : Nat} {j : Input}
    (hi : ∀ t ∈ i.tokens, K t) (h : skipped d own allow inner i = .ok (e, j)) :
    ∀ t ∈ j.tokens, K t := by
  have hknows : (Vocabulary.only K).Knows i := ⟨hi, fun _ _ => trivial⟩
  have hshared : (Vocabulary.only K).Shared (Link.same : Link ReadState) := fun _ _ => trivial
  have hmeets : Link.same.Meets _ (skipBranch d own allow inner i) _ := hknows.skipBranch hshared
  unfold skipped at h
  cases hskip : skipBranch d own allow inner i with
  | error f =>
    rw [hskip] at h
    contradiction
  | ok p =>
    rw [hskip] at h hmeets
    cases h
    cases hmeets with
    | ok hleft => exact hleft.2.tokens

/-- A branch that is taken comes to the same if its statements do. -/
theorem meeting_taken (hinside : Accord K m
      (reading setup budget n none branchEnds ⟨name, rest, fault, line⟩
        { s with scope := .staged [] s.scope })
      (reading (setup.holding files) budget n none branchEnds ⟨name, rest', fault, line⟩
        { s with scope := .staged [] s.scope })) :
    Meeting K m
      (outcome (conditional (readEntries setup budget (runDirective setup budget) n none) d own true
        ⟨name, rest, fault, line⟩) s)
      (outcome (conditional (readEntries (setup.holding files) budget
        (runDirective (setup.holding files) budget) n none) d own true
          ⟨name, rest', fault, line⟩) s) := by
  obtain ⟨hagree, hleaves⟩ := hinside
  unfold reading at hagree hleaves
  rw [outcome_taken, outcome_taken]
  generalize outcome (readEntries setup budget _ n none branchEnds ⟨name, rest, fault, line⟩) _ = q,
    outcome (readEntries (setup.holding files) budget _ n none branchEnds
      ⟨name, rest', fault, line⟩) _ = q' at hagree hleaves ⊢
  cases hagree with
  | failed => exact ⟨.failed _ _ _, .error⟩
  | ended => exact ⟨.failed _ _ _, .error⟩
  | same =>
    obtain ⟨f | ⟨_ | found, j⟩, v⟩ := q
    · exact ⟨.failed _ _ _, .error⟩
    · exact ⟨.failed _ _ _, .error⟩
    obtain ⟨-, hj, hv⟩ := hleaves _ j rfl
    obtain ⟨hes, hleft⟩ := hv.leaveBlock
    refine ⟨.same _, ?_⟩
    dsimp only
    split
    · rintro a j' h
      cases hskip : skipped d own false 0 j with
      | error f =>
        rw [hskip] at h
        contradiction
      | ok p =>
        rw [hskip] at h
        cases h
        exact ⟨hes, known_skipped hj hskip, hleft⟩
    · rintro a j' h
      cases h
      exact ⟨hes, hj, hleft⟩

/-- Behind a branch that is passed over the other one comes to the same if its statements do. -/
theorem meeting_otherwise {other : Token} (hus : Token.WellNested us)
    (hother : other.symbol = .directive Directive.otherwise.name)
    (hinside : ∀ line, Accord K m
      (reading setup budget n none branchEnds ⟨name, rest, fault, line⟩
        { s with scope := .staged [] s.scope })
      (reading (setup.holding files) budget n none branchEnds ⟨name, rest', fault, line⟩
        { s with scope := .staged [] s.scope })) :
    Meeting K m
      (outcome (conditional (readEntries setup budget (runDirective setup budget) n none) d own false
        ⟨name, us ++ other :: rest, fault, line⟩) s)
      (outcome (conditional (readEntries (setup.holding files) budget
        (runDirective (setup.holding files) budget) n none) d own false
          ⟨name, us ++ other :: rest', fault, line⟩) s) := by
  obtain ⟨hagree, hleaves⟩ := hinside (lineAfter line (us ++ [other]))
  unfold reading at hagree hleaves
  rw [outcome_otherwise hus hother, outcome_otherwise hus hother]
  generalize outcome (readEntries setup budget _ n none branchEnds ⟨name, rest, fault, _⟩) _ = q,
    outcome (readEntries (setup.holding files) budget _ n none branchEnds
      ⟨name, rest', fault, _⟩) _ = q' at hagree hleaves ⊢
  cases hagree with
  | failed => exact ⟨.failed _ _ _, .error⟩
  | ended => exact ⟨.failed _ _ _, .error⟩
  | same =>
    obtain ⟨f | ⟨_ | found, j⟩, v⟩ := q
    · exact ⟨.failed _ _ _, .error⟩
    · exact ⟨.failed _ _ _, .error⟩
    obtain ⟨-, hj, hv⟩ := hleaves _ j rfl
    obtain ⟨hes, hleft⟩ := hv.leaveBlock
    dsimp only
    split
    · exact ⟨.failed _ _ _, .error⟩
    · refine ⟨.same _, ?_⟩
      rintro a j' h
      cases h
      exact ⟨hes, hj, hleft⟩

end Conditionals

theorem line_nonneg_of_append {ts us : List Token} (hts : ∀ t ∈ ts, K t ∧ 0 ≤ t.line)
    (hus : ∀ t ∈ us.head?, 0 ≤ t.line) : ∀ t ∈ (ts ++ us).head?, 0 ≤ t.line := by
  cases ts with
  | nil => exact hus
  | cons u ts =>
    rintro t ht
    cases ht
    exact (hts u (List.mem_cons_self ..)).2

/-- **Texts come to the same if they do from a position on that both come to.** -/
theorem Comes.accord (C : setup.Alongside files K m) (hend : K .endIf)
    (hregistry : setup.registry = .standard) {budget' n' : Nat} {t : ReadState} {pre : List Token}
    (h : Comes setup name budget' n' t budget n pre s) (hpre : ∀ t ∈ pre, K t ∧ 0 ≤ t.line)
    (hs : s.Keeps m) {x : Scope.Kind} (hrel : Relined.Rel x s s)
    (hfault : ∀ f ∈ fault, f.within name = f) {rest rest' : List Token}
    (hrest : ∀ t ∈ rest'.head?, 0 ≤ t.line) (hplace : ∀ y, t.Keeps m → Relined.Rel y t t →
      ∀ line closing stops, stops ⊆ branchEnds → Accord K m
        (reading setup budget' n' closing stops ⟨name, rest, fault, line⟩ t)
        (reading (setup.holding files) budget' n' closing stops ⟨name, rest', fault, line⟩ t))
    (line : Int) (closing : Option Heading) {stops : List String} (hstops : stops ⊆ branchEnds) :
    Accord K m (reading setup budget n closing stops ⟨name, pre ++ rest, fault, line⟩ s)
      (reading (setup.holding files) budget n closing stops
        ⟨name, pre ++ rest', fault, line⟩ s) := by
  have hregistry' : (setup.holding files).registry = .standard := hregistry
  induction h generalizing x line closing stops with
  | here => exact hplace x hs hrel line closing stops hstops
  | statements hts _ ih =>
    obtain ⟨hpre, hmore⟩ := List.forall_mem_append.mp hpre
    obtain ⟨hts', hu⟩ := hts.alongside C hs (fun t ht => (hpre t ht).1) hend
    obtain ⟨hrel', hlines⟩ := hts.agree hregistry hrel
    obtain ⟨-, hlines'⟩ := hts'.agree hregistry' hrel
    obtain ⟨l, hagree⟩ := hlines line
    obtain ⟨l', hagree'⟩ := hlines' line
    rw [List.append_assoc, List.append_assoc]
    refine (ih hmore hu hrel' l closing hstops).between
      (hagree closing stops _ fault hstops hfault)
      ((agree_line (line_nonneg_of_append hmore hrest) l l').trans
        (hagree' closing stops _ fault hstops hfault).symm)
  | dictionary hk hp hn _ ih =>
    obtain ⟨-, hpre⟩ := List.forall_mem_cons.mp hpre
    obtain ⟨-, hpre⟩ := List.forall_mem_cons.mp hpre
    exact accord_dictionary C hs hk hp hn fun line closing =>
      ih hpre hs.inner ⟨hrel.1.inner, hrel.2⟩ line closing (List.nil_subset _)
  | @taken budget n own d ts rest s log hts _ ih =>
    obtain ⟨-, hpre⟩ := List.forall_mem_cons.mp hpre
    obtain ⟨hpre, hmore⟩ := List.forall_mem_append.mp hpre
    obtain ⟨x, hx⟩ := hts.symbol
    have hts' := hts.alongside C hs (fun t ht => (hpre t ht).1) hend
    rw [List.cons_append, List.cons_append, List.append_assoc, List.append_assoc]
    refine accord_directive C hx (hts.isDirectiveIn hstops) ?_
    rw [hts.outcome hregistry, hts'.outcome hregistry']
    exact meeting_taken
      (ih hmore (hs.block log) ⟨.block rfl hrel.1, hrel.2⟩ _ none (List.Subset.refl _))
  | @otherwise budget n own other d ts us rest s log hts hus hother _ ih =>
    obtain ⟨-, hpre⟩ := List.forall_mem_cons.mp hpre
    obtain ⟨hpre, hmore⟩ := List.forall_mem_append.mp hpre
    obtain ⟨-, hmore⟩ := List.forall_mem_append.mp hmore
    obtain ⟨-, hmore⟩ := List.forall_mem_cons.mp hmore
    obtain ⟨x, hx⟩ := hts.symbol
    have hts' := hts.alongside C hs (fun t ht => (hpre t ht).1) hend
    simp only [List.cons_append, List.append_assoc]
    refine accord_directive C hx (hts.isDirectiveIn hstops) ?_
    rw [hts.outcome hregistry, hts'.outcome hregistry']
    exact meeting_otherwise hus hother fun line =>
      ih hmore (hs.block log) ⟨.block rfl hrel.1, hrel.2⟩ line none (List.Subset.refl _)

end CaseDict
