import CaseDict.Proofs.Alternatives
import CaseDict.Proofs.Staging
/-! # Conditionals that might as well not be there

In the mode `retain` a conditional that is taken can be left out, so that its statements stand in
its place: a text that looks up names that lead inwards only and in which no pattern stands as a
keyword is read into the same entries on the same lines (`Reader.ofText_transparent`). -/

namespace CaseDict

open Expansion Statement Entry

/-! ### Reads without patterns -/

/-- Dictionaries that are the same, without patterns. -/
def Framing.unpatterned : Framing.Root :=
  .uniform (Same AllPlain) AllPlain.same_nil @AllPlain.same_filter

/-- Two reads that make the same dictionary, without patterns. -/
abbrev Framing.plain : Framing.Placing := Framing.rooted unpatterned

/-- A read in the mode `retain` that comes to no pattern, beside itself. -/
theorem Setup.retaining (setup : Setup) :
    Courses (.upTo fun _ => True) Framing.plain.retaining (.freely False)
      setup.plainly (Same AllPlain) setup setup := by
  refine Framing.courses_same (F := Framing.plain) (Q := AllPlain) (P := Plain) (fun _ => trivial)
    rfl (fun _ _ _ => trivial) ?_ (fun _ _ _ => ⟨trivial, rfl⟩) ?_
    (fun _ => Framing.membersOf_rooted rfl) ?_ (fun _ _ => plain_of_makes) (fun _ h => h) ?_ ?_
  · rintro log _ events rfl
    rfl
  · intro n t s ht hw
    exact absurd ((setup.plainly_quoted ht).symm.trans hw) Bool.false_ne_true.symm
  · refine fun fs fs' hf name => .inl (Framing.rooted_finds _ ?_ hf name)
    rintro es _ ⟨rfl, hes⟩
    exact Lookup.corresponds_self fun e he => (hes e he).finds
  · rintro _ es e p rfl hes he hp
    rw [place_retain] at hp
    cases hp
    exact forall_mem_concat hes he
  · intro n t name ht hd hw
    exact absurd ((setup.plainly_mode ht hd).symm.trans hw) Bool.false_ne_true.symm

/-- The state is one in the mode `retain`, without patterns. -/
def Retained (x : Scope.Kind) (s : ReadState) : Prop :=
  (Framing.plain.retaining x).rel s s

namespace Retained

variable {x : Scope.Kind} {s : ReadState}

theorem mode (h : Retained x s) : s.mode = .retain := h.2.1.2

theorem plain (h : Retained x s) : s.scope.Plain where
  made := h.1.made.1
  frames := by
    have hframes : List.Forall₂ (fun f f' : Frame Entry => f.transparent = f'.transparent ∧
      Same AllPlain f.entries f'.entries) s.scope.frames s.scope.frames := h.1.frames
    intro f hf
    exact (List.forall₂_same.mp hframes f hf).2.2

theorem start {setup : Setup} (hm : setup.settings.mode = .retain) :
    Retained .outermost (Reader.start setup) :=
  ⟨.outermost ⟨[], [], [], [], rfl, rfl, rfl, List.forall_mem_nil _⟩, ⟨rfl, hm⟩, rfl⟩

end Retained

/-- Scopes that correspond in one way correspond in another one in which their entries do. -/
theorem Framing.Rel.mono {R R' : Root} (houter : ∀ es es', R.outer es es' → R'.outer es es')
    (hinner : ∀ es es', R.inner es es' → R'.inner es es') {x : Scope.Kind} {s s' : Scope}
    (h : (rooted R).Rel x s s') : (rooted R').Rel x s s' := by
  induction h with
  | outermost h =>
    obtain ⟨es, es', removed, removed', rfl, rfl, hes⟩ := h
    exact .outermost ⟨es, es', removed, removed', rfl, rfl, houter _ _ hes⟩
  | dictionary h ha =>
    exact .dictionary (hinner _ _ h) (List.Forall₂.imp (fun _ _ h => ⟨h.1, houter _ _ h.2⟩) ha)
  | block h _ ih => exact .block (hinner _ _ h) ih

theorem Retained.relined {x : Scope.Kind} {s : ReadState} (h : Retained x s) : Relined.Rel x s s :=
  ⟨h.1.mono (fun _ _ h => h.1 ▸ rfl) fun _ _ h => h.1 ▸ rfl, rfl, trivial⟩

/-! ### Reads that come to the same -/

theorem rel_eq {α : Type} {a b : Option α} : Option.Rel Eq a b ↔ a = b := by
  constructor
  · rintro (rfl | _) <;> rfl
  · rintro rfl
    cases a <;> constructor
    rfl

/-- The inputs are the same, or they are at their ends and differ in the line they have come to. The
latter only if `ended` holds. -/
def Input.Resumes (ended : Prop) (i i' : Input) : Prop :=
  i = i' ∨ ended ∧ i.tokens = [] ∧ ∃ line, i' = { i with line }

namespace Input.Resumes

variable {ended : Prop} {i i' i'' : Input}

theorem refl (i : Input) : Resumes ended i i := .inl rfl

theorem trans (h : Resumes ended i i') (h' : Resumes ended i' i'') : Resumes ended i i'' := by
  obtain rfl | ⟨hended, htokens, line, rfl⟩ := h
  · exact h'
  · obtain rfl | ⟨-, -, line', rfl⟩ := h'
    · exact .inr ⟨hended, htokens, line, rfl⟩
    · exact .inr ⟨hended, htokens, line', rfl⟩

end Input.Resumes

section Comparing

variable {setup : Setup} {ended : Prop} {rel : ReadState → ReadState → Prop} {i i' : Input}

/-- At the end of an input statements are not read on, whatever the line. -/
theorem readEntries_resumed (hi : i.Resumes ended i') (budget n : Nat) (closing : Option Heading)
    (stops : List String) :
    Follows (.loosely Eq) (readEntries setup budget (runDirective setup budget) n closing stops i)
      (readEntries setup budget (runDirective setup budget) n closing stops i')
      fun p q => p.1 = q.1 ∧ p.2.input.Resumes ended q.2.input := by
  obtain rfl | ⟨hended, htokens, line, rfl⟩ := hi
  · exact (Follows.loosely_refl _).mono fun p q h => h ▸ ⟨rfl, .refl _⟩
  · obtain ⟨name, _, fault, line'⟩ := i
    cases htokens
    rw [readEntries.eq_def, readEntries.eq_def]
    cases fault with
    | some f => exact (Stuck.throw f).bind.follows
    | none =>
      cases closing with
      | some h => exact (Stuck.throw _).follows
      | none => exact .pure ⟨rfl, .inr ⟨hended, rfl, line, rfl⟩⟩

theorem skipBranch_resumed (hi : i.Resumes ended i') (own : Directive) (t : Token) (allow : Bool)
    (inner : Nat) : (Link.loosely rel).Meets
      (fun p q => p.1 = q.1 ∧ p.2.input.Resumes ended q.2.input)
      (skipBranch own t allow inner i) (skipBranch own t allow inner i') := by
  obtain rfl | ⟨hended, htokens, line, rfl⟩ := hi
  · exact .refl (fun p _ => ⟨rfl, .refl _⟩) fun _ _ => trivial
  · obtain ⟨name, _, fault, line'⟩ := i
    cases htokens
    rw [skipBranch.eq_def]
    cases fault <;> exact .parted trivial rfl

end Comparing

/-- Reads that come to the same, from states without patterns in the mode `retain`. -/
def Retained.comparison (setup : Setup) (ended : Prop) : Comparison setup.plainly setup where
  rel _ := Eq
  holds := Retained
  inputs := Input.Resumes ended
  tokens := Eq
  entry := Eq
  contents := Eq
  refl _ := rfl
  statement {x budget n t i s u p} h hr := by
    have hrun := (Watched.readStatement_repeats (Watched.runDirective_repeats budget)
      (fun i' _ => Watched.readEntries_repeats (Watched.runDirective_repeats budget) i') n t).ok hr
    have hbudget : (Link.upTo fun _ => True : Link (List Event)).Limited .expansionOverflow budget
        budget := .inl rfl
    have hruns := setup.retaining.runs hbudget
    have hends := (setup.retaining.readStatement (x := x) (n := n) (t := t) hbudget hruns trivial
      ⟨fun _ _ => trivial, fun _ _ => trivial⟩
      (setup.retaining.below hbudget hruns i.size)).ends s s h
    rw [Nat.add_zero, hr, hrun] at hends
    cases hends with
    | ok _ hu => exact hu
  reporting h _ := ⟨h.1, h.2.1, rfl⟩
  inner h := ⟨h.1.inner, h.2⟩
  block h := ⟨.block AllPlain.same_nil h.1, h.2⟩
  leave {x s} h := by
    obtain ⟨scope, mode, log⟩ := s
    obtain ⟨hscope, hrest⟩ := h
    cases hscope with
    | block hes hbelow => exact ⟨_, _, rfl, hbelow, hrest⟩
  enter h := h ▸ rfl
  leaveDictionary h _ := h ▸ ⟨rfl, rfl⟩
  leaveBlock h := h ▸ ⟨rfl, rfl⟩
  closes h _ _ he _ _ hes := by
    obtain rfl := hes
    rw [rel_eq.mp he]
  same _ := rfl
  divides h := h ▸ rfl
  places h := h ▸ (Follows.loosely_refl _).mono fun _ _ _ => trivial
  placesAll h := h ▸ (Follows.loosely_refl _).mono fun _ _ _ => trivial
  goesOn hi budget n closing stops :=
    (readEntries_resumed hi budget n closing stops).mono fun _ _ h => ⟨rel_eq.mpr h.1, h.2⟩
  passesOver hi own t allow inner := skipBranch_resumed hi own t allow inner

/-! ### Statements in the place of a conditional -/

section Lines

variable {setup : Setup} {ended : Prop} (ts : List Token) {r : Tail}
  (hline : ∀ t ∈ (ts ++ r.tokens).head?, 0 ≤ t.line) (hended : ts ++ r.tokens = [] → ended)

include hline hended

/-- The line that was come to before a text does not count, if the text begins in a line. -/
theorem Retained.ends_behind (P : Place) (x : Scope.Kind) (s : ReadState) (name : String)
    (line line' : Int) : ((comparison setup ended).link x).Ends
      ((comparison setup ended).Leaves (Option.Rel Eq))
      (exec (P.read setup (r.behind ts name line)) s)
      (exec (P.read setup (r.behind ts name line')) s) := by
  have hbehind (line : Int) : r.behind ts name line =
      Tail.behind ⟨ts ++ r.tokens, r.fault⟩ [] name line := rfl
  rw [hbehind, hbehind]
  generalize ts ++ r.tokens = us at hline hended
  cases us with
  | nil =>
    have hi : Input.Resumes ended (Tail.behind ⟨[], r.fault⟩ [] name line)
        (Tail.behind ⟨[], r.fault⟩ [] name line') := .inr ⟨hended rfl, rfl, line', rfl⟩
    cases P with
    | entries budget nesting closing stops =>
      exact (Comparison.follows_readEntries (C := comparison setup ended) hi).ends s s rfl
    | skip own t allow inner =>
      have hpass := (comparison setup ended).passesOver (x := x) hi own t allow inner
      refine (Follows.bind (.lift hpass) ?_).ends s s rfl
      rintro ⟨e, rest⟩ ⟨_, rest'⟩ ⟨rfl, hrest⟩
      exact .pure ⟨.some rfl, hrest⟩
  | cons t us =>
    have ht : 0 ≤ t.line := hline t rfl
    have hfirst (line : Int) : Token.lineAfter line [t] = t.line := if_pos ht
    have hshift (line : Int) : Tail.behind ⟨t :: us, r.fault⟩ [] name line =
        Tail.behind ⟨us, r.fault⟩ [t] name line := rfl
    refine Comparison.ends_of_forall (C := comparison setup ended) fun a j u hg =>
      ⟨a, j, u, ?_, rel_eq.mpr rfl, .refl j, rfl⟩
    rw [hshift] at hg ⊢
    cases P with
    | entries budget nesting closing stops =>
      dsimp only [Place.read] at hg ⊢
      rw [gives_behind, hfirst] at hg ⊢
      exact hg
    | skip own t' allow inner =>
      rw [gives_skip, skipped_cons, hfirst] at hg ⊢
      exact hg

end Lines

section Branches

variable {setup : Setup} (hregistry : setup.registry = .standard) {budget n : Nat}
  {x : Scope.Kind} {s : ReadState} (hs : Retained x s) {ts : List Token} (hts : Token.WellNested ts)
  {last : Token} (hlast : last.symbol = .directive Directive.endIf.name) {c : Tail} {name : String}
  {line : Int} (hinward : ∀ t ∈ ts ++ last :: c.tokens, t.Inward)

include hregistry hs hts hlast hinward

/-- A branch that is read as a whole brings the entries that its statements put in its place. -/
theorem whole_inPlace {p : Option Token × List Entry} {k : Input} {v : ReadState}
    (hg : Gives (branch (Watched.readEntries setup.plainly setup.inward budget
      (Watched.runDirective setup.plainly setup.inward budget) n none)
        (c.behind (ts ++ [last]) name line)) s p k v) :
    ∃ es, Whole setup.inward budget n ts name line s es v ∧
      v.mode = .retain ∧ v.scope.Plain ∧ ∃ line', ∀ (r : Tail) closing stops a j u,
        stops ⊆ branchEnds →
          (Gives (readEntries setup.inward (budget + 1)
              (runDirective setup.inward (budget + 1)) n closing stops
              (r.behind ts name line)) s a j u ↔
            Gives (readEntries setup.inward (budget + 1)
              (runDirective setup.inward (budget + 1)) n closing stops
              (r.behind [] name line'))
              { v with scope := v.scope.refill (v.scope.entries ++ es) } a j u) := by
  have hend := (branchEnd_endIf hlast).1
  have hsealed : setup.inward.registry = .standard := hregistry
  obtain ⟨es, w, -, l, hwhole⟩ := (Retained.comparison setup.inward True).whole
    hregistry hts hs hend hg
  obtain ⟨t, ⟨rest, hx, hrest⟩, hleave⟩ := gives_branch.mp hg
  have hunwatched := (Watched.readEntries_repeats (Watched.runDirective_repeats budget) _ n none
    branchEnds).ok hx
  obtain ⟨hp, -, rfl⟩ := (hwhole c last [] p k v hend).mp
    (gives_branch.mpr ⟨t, ⟨rest, hunwatched, hrest⟩, hleave⟩)
  have hbehind (r : Tail) : r.behind (ts ++ [last]) name line =
      (r.after [last]).behind ts name line := by
    simp [Tail.behind, Tail.after]
  obtain ⟨own, below, hscope, hmode, hbelow, -, hplaced⟩ := exec_inPlace hs.plain hs.mode
    (fun t ht => hinward t (by simpa [Tail.behind] using ht)) hx
  rw [Follows.leaveBlock, hscope] at hleave
  obtain ⟨hown, rfl⟩ := Prod.mk.inj hleave
  obtain rfl : es = own := by rw [← hown, hp]
  refine ⟨es, ⟨l, hwhole⟩, hmode, hbelow, ?_⟩
  -- The statements in place are read alike before every tail, so also before the end of the branch.
  have hcloses : (c.after [last]).Closes := ⟨last, c.tokens, rfl, hend⟩
  have hgives : Gives (readEntries setup.inward (budget + 1)
      (runDirective setup.inward (budget + 1)) n none branchEnds
      ((c.after [last]).behind ts name line)) s p.1 rest.input
        { t with scope := below.refill (below.entries ++ es) } := by
    rw [← hbehind]
    exact ⟨rest, hplaced, rfl⟩
  obtain ⟨s', line', -, hiff⟩ := (Relined.comparison hsealed).branch_statements hcloses hsealed hts
    hs.relined (by rwa [Watched.readEntries_never, Watched.runDirective_never])
  refine ⟨line', fun r closing stops a j u hstops => ?_⟩
  have hstop := (hiff (c.after [last]) none branchEnds _ _ _ (List.Subset.refl _)).mp hgives
  rw [Tail.behind_after, gives_behind, if_neg (by rw [hlast]; simp), if_neg (by rw [hlast]; simp),
    if_pos hend] at hstop
  obtain rfl := hstop.2.2
  exact hiff r closing stops a j u hstops

omit hregistry hs hinward in
/-- Where a branch is passed over, so is a conditional in it, and so are its statements. -/
theorem Retained.skip_ends (setup : Setup) {ended : Prop} (hline : ∀ t ∈ c.tokens.head?, 0 ≤ t.line)
    (hended : c.tokens = [] → ended) (own : Directive) (t : Token) (allow : Bool) (inner : Nat)
    (l : Int) : ((comparison setup ended).link x).Ends
      ((comparison setup ended).Leaves (Option.Rel Eq))
      (exec (Place.read setup (.skip own t allow inner)
        (c.behind (opens "on" l ++ (ts ++ [last])) name line)) s)
      (exec (Place.read setup (.skip own t allow inner) (c.behind ts name line)) s) := by
  refine Comparison.ends_congr (comparison setup ended)
    (fun _ _ _ => (gives_skip_whole (wellNested_branch hts hlast)).mp)
    (fun _ _ _ => (gives_skip_whole hts).mpr) ?_
  exact ends_behind [] hline hended (.skip own t allow inner) x s name _ _

/-- Where statements are read, a conditional brings what its statements put in its place. -/
theorem Retained.entries_ends {ended : Prop} (hline : ∀ t ∈ c.tokens.head?, 0 ≤ t.line)
    (hline' : ∀ t ∈ (ts ++ c.tokens).head?, 0 ≤ t.line) (hended : c.tokens = [] → ended)
    {closing : Option Heading} {stops : List String} (hstops : stops ⊆ branchEnds) {l : Int}
    (hguide : ∃ a j u, Gives (Watched.readEntries setup.plainly setup.inward budget
      (Watched.runDirective setup.plainly setup.inward budget) n closing stops
      (c.behind (opens "on" l ++ (ts ++ [last])) name line)) s a j u) :
    ((comparison setup.inward ended).link x).Ends
      ((comparison setup.inward ended).Leaves (Option.Rel Eq))
      (exec (readEntries setup.inward budget (runDirective setup.inward budget) n closing stops
        (c.behind (opens "on" l ++ (ts ++ [last])) name line)) s)
      (exec (readEntries setup.inward budget (runDirective setup.inward budget) n closing stops
        (c.behind ts name line)) s) := by
  have hsealed : setup.inward.registry = .standard := hregistry
  obtain ⟨hend, hnot⟩ := branchEnd_endIf hlast
  obtain ⟨a₀, j₀, u₀, hguide⟩ := hguide
  obtain ⟨-, b, rfl, es₀, m₀, v₀, es₀', t₀, hconditional₀, -, -⟩ :=
    (Watched.gives_opens hsealed rfl hstops).mp hguide
  obtain ⟨p₀, k₀, w, hbranch₀, -⟩ := gives_taken.mp hconditional₀
  obtain ⟨es, ⟨l', hwhole⟩, hmode, hplain, line', hinPlace⟩ :=
    whole_inPlace hregistry hs hts hlast hinward hbranch₀
  refine Comparison.ends_of_forall (C := comparison setup.inward ended) fun a j u hg => ?_
  obtain ⟨_, hb, es', m, v, placed, t, hconditional, hplace, hrest⟩ :=
    (gives_opens hsealed rfl hstops).mp hg
  cases hb
  obtain ⟨p, k, w', hbranch, hbranched⟩ := gives_taken.mp hconditional
  obtain ⟨rfl, rfl, rfl⟩ := (hwhole c last [] p k w' hend).mp hbranch
  obtain ⟨rfl, rfl, rfl⟩ := (gives_branched_last hnot).mp hbranched
  -- The entries come behind those of the dictionary, where the statements put them in place.
  rw [exec_placeAll_retain hmode hplain.made] at hplace
  cases hplace
  obtain ⟨b', k', u', hrest', hb, hk, rfl⟩ := Comparison.gives_of_ends
    (ends_behind [] hline hended (.entries (b + 1) n closing stops) x _ name
      (Token.lineAfter l' [last]) line') hrest
  obtain ⟨b'', k'', u'', hrest'', hb', hk', rfl⟩ := Comparison.gives_of_ends
    (ends_behind ts hline' (fun h => hended (List.append_eq_nil_iff.mp h).2)
      (.entries (b + 1) n closing stops) x s name (Token.lineAfter line (opens "on" l)) line)
    ((hinPlace c closing stops b' k' u hstops).mpr hrest')
  exact ⟨b'', k'', u, hrest'', rel_eq.mpr ((rel_eq.mp hb).trans (rel_eq.mp hb')), hk.trans hk', rfl⟩

end Branches

/-! ### Texts -/

namespace Lexer

theorem lex_space (line : Int) (cs : List Char) : lex line (' ' :: cs) = lex line cs := by
  have hgap : nextStep line (' ' :: cs) = nextStep line cs := by
    rw [nextStep, nextStep, skipGap_blank (by decide), if_neg (by decide)]
  rw [lex.eq_def, hgap, ← lex.eq_def]

theorem newlines_nonneg (cs : List Char) : 0 ≤ newlines cs := by
  unfold newlines
  omega

/-- The tokens of a text stand behind the line that the text begins in. -/
theorem line_nonneg_of_head? {line : Int} (hl : 0 ≤ line) {cs : List Char} :
    ∀ t ∈ (lex line cs).tokens.head?, 0 ≤ t.line :=
  fun _ ht => hl.trans (le_line_of_head? ht)

theorem line_nonneg_of_head?_append {line line' : Int} (hl : 0 ≤ line) (hl' : 0 ≤ line')
    {cs cs' : List Char} :
    ∀ t ∈ ((lex line cs).tokens ++ (lex line' cs').tokens).head?, 0 ≤ t.line := by
  intro t ht
  rw [List.head?_append] at ht
  cases hhead : (lex line cs).tokens.head? with
  | none =>
    rw [hhead] at ht
    exact line_nonneg_of_head? hl' t ht
  | some t' =>
    rw [hhead] at ht
    cases ht
    exact line_nonneg_of_head? hl _ hhead

end Lexer

open Lexer

namespace Tail

variable (name : String) (line : Int) (cs : List Char)

theorem ofText_space : ofText name line (' ' :: cs) = ofText name line cs := by
  rw [ofText, lex_space]
  rfl

theorem ofText_opens : ofText name line (" #if on ".toList ++ cs) =
    (ofText name line cs).after (opens "on" line) := by
  have hif : nextStep line (" #if on ".toList ++ cs) =
      .ok (some ⟨⟨.directive Directive.ifTrue.name, line⟩, line, " on ".toList ++ cs⟩) := rfl
  have hon : nextStep line (" on ".toList ++ cs) =
      .ok (some ⟨⟨.word "on", line⟩, line, ' ' :: cs⟩) := rfl
  rw [ofText, lex_of_nextStep hif, lex_of_nextStep hon, lex_space]
  rfl

theorem ofText_endIf : ofText name line (" #endif ".toList ++ cs) =
    (ofText name line cs).after [⟨.directive Directive.endIf.name, line⟩] := by
  have hend : nextStep line (" #endif ".toList ++ cs) =
      .ok (some ⟨⟨.directive Directive.endIf.name, line⟩, line, ' ' :: cs⟩) := rfl
  rw [ofText, lex_of_nextStep hend, lex_space]
  rfl

end Tail

section Texts

variable {A B C : String} (hA : ∀ tail, Joins A.toList (' ' :: tail))
  (hB : ∀ tail, Joins B.toList (' ' :: tail)) (name : String)

include hA hB

/-- The tokens of statements in a conditional, behind a text and before another one. -/
theorem Input.ofText_taken : ofText name (A ++ " #if on " ++ B ++ " #endif " ++ C) =
    ((Tail.ofText name (1 + newlines A.toList + newlines B.toList) C.toList).after
      (opens "on" (1 + newlines A.toList) ++ ((lex (1 + newlines A.toList) B.toList).tokens ++
        [⟨.directive Directive.endIf.name, 1 + newlines A.toList + newlines B.toList⟩]))).behind
          (lex 1 A.toList).tokens name 0 := by
  have htext : A ++ " #if on " ++ B ++ " #endif " ++ C =
      A ++ (" #if on " ++ (B ++ (" #endif " ++ C))) := by simp only [String.append_assoc]
  have hbefore : Joins A.toList (" #if on " ++ (B ++ (" #endif " ++ C))).toList := by
    rw [String.toList_append]
    exact hA _
  have hbehind : Joins B.toList (" #endif ".toList ++ C.toList) := hB _
  rw [htext, Input.ofText_joins hbefore, String.toList_append, Tail.ofText_opens,
    String.toList_append, String.toList_append, Tail.ofText_joins hbehind, Tail.ofText_endIf,
    Tail.after_after, Tail.after_after, List.append_assoc]

/-- The tokens of the same statements without the conditional. -/
theorem Input.ofText_between : ofText name (A ++ " " ++ B ++ " " ++ C) =
    ((Tail.ofText name (1 + newlines A.toList + newlines B.toList) C.toList).after
      (lex (1 + newlines A.toList) B.toList).tokens).behind (lex 1 A.toList).tokens name 0 := by
  have htext : A ++ " " ++ B ++ " " ++ C = A ++ (" " ++ (B ++ (" " ++ C))) := by
    simp only [String.append_assoc]
  have hbefore : Joins A.toList (" " ++ (B ++ (" " ++ C))).toList := by
    rw [String.toList_append]
    exact hA _
  rw [htext, Input.ofText_joins hbefore, String.toList_append,
    show " ".toList ++ (B ++ (" " ++ C)).toList = ' ' :: (B ++ (" " ++ C)).toList from rfl,
    Tail.ofText_space, String.toList_append, String.toList_append,
    show " ".toList ++ C.toList = ' ' :: C.toList from rfl, Tail.ofText_joins (hB _),
    Tail.ofText_space]

end Texts

namespace Reader

variable {setup : Setup}

theorem gives_of_watched {watch : Watch} {i : Input} {e : Entry}
    (h : (Watched.read watch setup i).1 = .ok e) :
    ∃ a j u, Gives (Watched.readEntries watch setup (setup.settings.budget 0)
        (Watched.runDirective watch setup (setup.settings.budget 0)) 0 none [] i)
        (start setup) a j u ∧
      e = .dictionary ⟨i.name, false, 1, j.line⟩ u.scope.entries := by
  rw [watched_eq] at h
  unfold Gives
  rcases hx : exec (Watched.entries watch setup 0 0 none [] i) (start setup) with
    ⟨f | ⟨a, rest⟩, u⟩
  all_goals rw [hx] at h
  · cases h
  · cases h
    exact ⟨a, _, u, ⟨rest, hx, rfl⟩, rfl⟩

/-- Statements are read in the place of a conditional that is taken as they are read in it. -/
theorem read_transparent (hregistry : setup.registry = .standard)
    (hmode : setup.settings.mode = .retain) {pre ts : List Token} (hts : Token.WellNested ts)
    {last : Token} (hlast : last.symbol = .directive Directive.endIf.name) {c : Tail}
    (hinward : ∀ t ∈ ts ++ last :: c.tokens, t.Inward) (hline : ∀ t ∈ c.tokens.head?, 0 ≤ t.line)
    (hline' : ∀ t ∈ (ts ++ c.tokens).head?, 0 ≤ t.line) {name : String} {l : Int} {e : Entry}
    (hread : (Watched.read setup.plainly setup.inward
      ((c.after (opens "on" l ++ (ts ++ [last]))).behind pre name 0)).1 = .ok e) :
    ∃ line line' es, e = .dictionary ⟨name, false, 1, line⟩ es ∧
      (read setup ((c.after ts).behind pre name 0)).1 =
        .ok (.dictionary ⟨name, false, 1, line'⟩ es) ∧ (c.tokens ≠ [] → line' = line) := by
  have hsealed : setup.inward.registry = .standard := hregistry
  obtain ⟨a, j, u, hguide, rfl⟩ := gives_of_watched hread
  -- Up to the place of the conditional the states are the same, and without patterns.
  have hends := (Retained.comparison setup.inward (c.tokens = [])).entries_ends
    (branches_opens c "on" l (ts ++ [last])) hsealed (Retained.start hmode) ⟨a, j, u, hguide⟩
    (r := c.after (opens "on" l ++ (ts ++ [last]))) (q := c.after ts)
    fun P y t line ht hproper hok => by
      cases P with
      | entries budget n closing stops =>
        exact Retained.entries_ends hregistry ht hts hlast hinward hline hline' id hproper hok
      | skip own t allow inner =>
        exact Retained.skip_ends hts hlast setup.inward hline id own t allow inner l
  obtain ⟨rest, hx, rfl⟩ := hguide
  have hrun := (Watched.readEntries_repeats (Watched.runDirective_repeats _) _ _ _ _).ok hx
  obtain ⟨b, k, _, ⟨rest', hx', rfl⟩, -, hresumes, rfl⟩ :=
    Comparison.gives_of_ends hends ⟨rest, hrun, rfl⟩
  -- What is read without the texts that refer outwards is read with them too.
  have hstart : (start setup).scope.Carries Token.AllLiteral := Scope.carries_nil
  obtain ⟨hx', -⟩ := exec_withholding hstart hx'
  refine ⟨_, _, _, rfl, read_eq_ok.mpr ⟨b, _, u, ⟨rest', hx', rfl⟩, rfl⟩, fun hne => ?_⟩
  obtain heq | ⟨hended, -⟩ := hresumes
  · rw [heq]
  · exact absurd hended hne

/-- **A conditional that is taken might as well not be there.** -/
theorem ofText_transparent (hregistry : setup.registry = .standard)
    (hmode : setup.settings.mode = .retain) {A B C : String}
    (hA : ∀ tail, Joins A.toList (' ' :: tail)) (hB : ∀ tail, Joins B.toList (' ' :: tail))
    (hnested : Token.WellNested (lex 1 B.toList).tokens) {name : String} {h : Heading}
    {es : List Entry} (hread : (ofText setup (A ++ " #if on " ++ B ++ " #endif " ++ C) name).1 =
      .ok (.dictionary h es))
    (hinward : refersOutwards (A ++ " " ++ B ++ " " ++ C) = false)
    (hplain : (Watched.read setup.plainly setup.inward
        (.ofText name (A ++ " #if on " ++ B ++ " #endif " ++ C))).1 =
      (ofText setup (A ++ " #if on " ++ B ++ " #endif " ++ C) name).1) :
    ∃ line, (ofText setup (A ++ " " ++ B ++ " " ++ C) name).1 =
        .ok (.dictionary { h with endLine := line } es) ∧
      ((lex 1 C.toList).tokens ≠ [] → line = h.endLine) := by
  have hwatched := hplain.trans hread
  rw [Input.ofText_taken hA hB name] at hwatched
  have hl : 0 ≤ 1 + newlines A.toList := by
    have := newlines_nonneg A.toList
    omega
  have hl' : 0 ≤ 1 + newlines A.toList + newlines B.toList := by
    have := newlines_nonneg B.toList
    omega
  have htokens : (lex 1 (A ++ " " ++ B ++ " " ++ C).toList).tokens = (lex 1 A.toList).tokens ++
      ((lex (1 + newlines A.toList) B.toList).tokens ++
        (lex (1 + newlines A.toList + newlines B.toList) C.toList).tokens) :=
    congrArg Input.tokens (Input.ofText_between hA hB name)
  have hall := inward_of_refersOutwards hinward
  rw [htokens] at hall
  obtain ⟨-, hall⟩ := List.forall_mem_append.mp hall
  obtain ⟨hts, hc⟩ := List.forall_mem_append.mp hall
  have hnested : Token.WellNested (lex (1 + newlines A.toList) B.toList).tokens := by
    rw [Token.WellNested, (lex_relined 1 (1 + newlines A.toList) B.toList).1.levels]
    exact hnested
  obtain ⟨line, line', es', he, hread', hsame⟩ := read_transparent hregistry hmode hnested rfl
    (List.forall_mem_append.mpr ⟨hts, List.forall_mem_cons.mpr ⟨fun _ h => by contradiction, hc⟩⟩)
    (line_nonneg_of_head? hl') (line_nonneg_of_head?_append hl hl') hwatched
  cases he
  refine ⟨line', ?_, fun hne => hsame fun hempty => hne ?_⟩
  · rw [ofText, Input.ofText_between hA hB name]
    exact hread'
  · have hlength := (lex_relined 1 (1 + newlines A.toList + newlines B.toList) C.toList).1.length_eq
    rw [show (lex (1 + newlines A.toList + newlines B.toList) C.toList).tokens = [] from hempty]
      at hlength
    exact List.eq_nil_of_length_eq_zero hlength

/-- In a dictionary, an entry that is taken on a condition, and an older one that is removed. -/
def takenInside : Input := .ofTokens "t" [⟨.word "d", 1⟩, ⟨.opener .brace, 1⟩, ⟨.word "y", 2⟩,
  ⟨.number (.int 1), 2⟩, ⟨.terminator, 2⟩, ⟨.directive "if", 3⟩, ⟨.word "on", 3⟩, ⟨.word "z", 3⟩,
  ⟨.reference "y", 3⟩, ⟨.terminator, 3⟩, ⟨.directive "remove", 4⟩, ⟨.word "y", 4⟩, ⟨.terminator, 4⟩,
  ⟨.directive "endif", 5⟩, ⟨.word "v", 5⟩, ⟨.reference "z", 5⟩, ⟨.terminator, 5⟩,
  ⟨.closer .brace, 6⟩]

theorem ofText_transparent_removal :
    ∃ setup A B C h es, setup.registry = .standard ∧ setup.settings.mode = .retain ∧
      (∀ tail, Joins A.toList (' ' :: tail)) ∧ (∀ tail, Joins B.toList (' ' :: tail)) ∧
      Token.WellNested (lex 1 B.toList).tokens ∧
      (ofText setup (A ++ " #if on " ++ B ++ " #endif " ++ C) "t").1 = .ok (.dictionary h es) ∧
      refersOutwards (A ++ " " ++ B ++ " " ++ C) = false ∧
      (Watched.read setup.plainly setup.inward
          (.ofText "t" (A ++ " #if on " ++ B ++ " #endif " ++ C))).1 =
        (ofText setup (A ++ " #if on " ++ B ++ " #endif " ++ C) "t").1 ∧
      (lex 1 C.toList).tokens ≠ [] ∧ ∃ line,
        (ofText setup (A ++ " " ++ B ++ " " ++ C) "t").1 =
          .ok (.dictionary { h with endLine := line } es) ∧
        ((lex 1 C.toList).tokens ≠ [] → line = h.endLine) := by
  let A := "d \x7b\ny 1;\n"
  let B := "z $y;\n#remove y;\n"
  let C := "v $z;\n\x7d"
  have hlexA : Lexer.lexWithin 10 1 A.toList = some ⟨[⟨.word "d", 1⟩, ⟨.opener .brace, 1⟩,
      ⟨.word "y", 2⟩, ⟨.number (.int 1), 2⟩, ⟨.terminator, 2⟩], none⟩ := by decide +kernel
  have hlexB : Lexer.lexWithin 20 1 B.toList = some ⟨[⟨.word "z", 1⟩, ⟨.reference "y", 1⟩,
      ⟨.terminator, 1⟩, ⟨.directive "remove", 2⟩, ⟨.word "y", 2⟩, ⟨.terminator, 2⟩], none⟩ := by
    decide +kernel
  have hlexC : Lexer.lexWithin 10 1 C.toList = some ⟨[⟨.word "v", 1⟩, ⟨.reference "z", 1⟩,
      ⟨.terminator, 1⟩, ⟨.closer .brace, 2⟩], none⟩ := by decide +kernel
  have hA tail : Joins A.toList (' ' :: tail) :=
    joins_of_getLast? (by decide) (by rw [lex_of_lexWithin hlexA]) _
  have hB tail : Joins B.toList (' ' :: tail) :=
    joins_of_getLast? (by decide) (by rw [lex_of_lexWithin hlexB]) _
  have hnested : Token.WellNested (lex 1 B.toList).tokens := by
    rw [lex_of_lexWithin hlexB]
    decide
  have hlex : Lexer.lexWithin 40 1 (A ++ " #if on " ++ B ++ " #endif " ++ C).toList =
      some ⟨takenInside.tokens, none⟩ := by decide +kernel
  have htext : Input.ofText "t" (A ++ " #if on " ++ B ++ " #endif " ++ C) = takenInside := by
    rw [Input.ofText, lex_of_lexWithin hlex]
    rfl
  let made : Entry := .dictionary ⟨"t", false, 1, 6⟩ [.dictionary ⟨"d", false, 1, 6⟩
    [.primitive ⟨"z", false, 3, 3⟩ [⟨.number (.int 1), 2⟩],
      .primitive ⟨"v", false, 5, 5⟩ [⟨.number (.int 1), 2⟩]]]
  have hread : (ofText bareSetup (A ++ " #if on " ++ B ++ " #endif " ++ C) "t").1 = .ok made := by
    rw [ofText, htext]
    cbv
  have hwatched : (Watched.read bareSetup.plainly bareSetup.inward
      (.ofText "t" (A ++ " #if on " ++ B ++ " #endif " ++ C))).1 = .ok made := by
    rw [htext]
    cbv
  have hinward : refersOutwards (A ++ " " ++ B ++ " " ++ C) = false := by
    have hlex : Lexer.lexWithin 40 1 (A ++ " " ++ B ++ " " ++ C).toList =
        some ⟨takenInside.tokens.eraseIdx 13 |>.eraseIdx 5 |>.eraseIdx 5, none⟩ := by decide +kernel
    rw [refersOutwards, lex_of_lexWithin hlex]
    cbv
  have htokens : (lex 1 C.toList).tokens ≠ [] := by
    rw [lex_of_lexWithin hlexC]
    exact List.cons_ne_nil _ _
  have hplain := hwatched.trans hread.symm
  exact ⟨bareSetup, A, B, C, _, _, rfl, rfl, hA, hB, hnested, hread, hinward, hplain, htokens,
    ofText_transparent rfl rfl hA hB hnested hread hinward hplain⟩

/-- The outermost dictionary ends on the line of the last token, and the conditional has the last
one here. -/
theorem not_ofText_transparent :
    ∃ setup A B C h es, setup.registry = .standard ∧ setup.settings.mode = .retain ∧
      (∀ tail, Joins A.toList (' ' :: tail)) ∧ (∀ tail, Joins B.toList (' ' :: tail)) ∧
      Token.WellNested (lex 1 B.toList).tokens ∧
      (ofText setup (A ++ " #if on " ++ B ++ " #endif " ++ C) "t").1 = .ok (.dictionary h es) ∧
      refersOutwards (A ++ " " ++ B ++ " " ++ C) = false ∧
      (Watched.read setup.plainly setup.inward
          (.ofText "t" (A ++ " #if on " ++ B ++ " #endif " ++ C))).1 =
        (ofText setup (A ++ " #if on " ++ B ++ " #endif " ++ C) "t").1 ∧
      (ofText setup (A ++ " " ++ B ++ " " ++ C) "t").1.isOk = true ∧
      (ofText setup (A ++ " " ++ B ++ " " ++ C) "t").1 ≠ .ok (.dictionary h es) := by
  let B := "x 1;\n"
  let entry : List Token := [⟨.word "x", 1⟩, ⟨.number (.int 1), 1⟩, ⟨.terminator, 1⟩]
  let opened : List Token := [⟨.directive "if", 1⟩, ⟨.word "on", 1⟩]
  have hlexB : Lexer.lexWithin 10 1 B.toList = some ⟨entry, none⟩ := by decide +kernel
  have hA (tail : List Char) : Joins "".toList (' ' :: tail) := fun line => by
    rw [show "".toList = [] from rfl, lex_nil, List.nil_append,
      show newlines [] = 0 from rfl, Int.add_zero]
    rfl
  have hB tail : Joins B.toList (' ' :: tail) :=
    joins_of_getLast? (by decide) (by rw [lex_of_lexWithin hlexB]) _
  have hlex : Lexer.lexWithin 10 1 ("" ++ " #if on " ++ B ++ " #endif " ++ "").toList =
      some ⟨opened ++ (entry ++ [⟨.directive "endif", 2⟩]), none⟩ := by decide +kernel
  have hlex' : Lexer.lexWithin 10 1 ("" ++ " " ++ B ++ " " ++ "").toList = some ⟨entry, none⟩ := by
    decide +kernel
  have hread : (ofText bareSetup ("" ++ " #if on " ++ B ++ " #endif " ++ "") "t").1 =
      .ok (.dictionary ⟨"t", false, 1, 2⟩ [.primitive ⟨"x", false, 1, 1⟩
        [⟨.number (.int 1), 1⟩]]) := by
    rw [ofText_eq_read _ hlex]
    cbv
  have hwatched : (Watched.read bareSetup.plainly bareSetup.inward
      (.ofText "t" ("" ++ " #if on " ++ B ++ " #endif " ++ ""))).1 =
        .ok (.dictionary ⟨"t", false, 1, 2⟩ [.primitive ⟨"x", false, 1, 1⟩
          [⟨.number (.int 1), 1⟩]]) := by
    rw [Input.ofText, lex_of_lexWithin hlex]
    cbv
  have hread' : (ofText bareSetup ("" ++ " " ++ B ++ " " ++ "") "t").1 =
      .ok (.dictionary ⟨"t", false, 1, 1⟩ [.primitive ⟨"x", false, 1, 1⟩
        [⟨.number (.int 1), 1⟩]]) := by
    rw [ofText_eq_read _ hlex']
    cbv
  have hinward : refersOutwards ("" ++ " " ++ B ++ " " ++ "") = false := by
    rw [refersOutwards, lex_of_lexWithin hlex']
    cbv
  have hnested : Token.WellNested (lex 1 B.toList).tokens := by
    rw [lex_of_lexWithin hlexB]
    decide
  refine ⟨bareSetup, "", B, "", _, _, rfl, rfl, hA, hB, hnested, hread, hinward,
    hwatched.trans hread.symm, by rw [hread']; rfl, ?_⟩
  rw [hread']
  intro h
  cases h

end Reader

end CaseDict
