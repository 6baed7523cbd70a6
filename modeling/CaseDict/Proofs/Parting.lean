import CaseDict.Proofs.Giving
/-! # Where reads part

A read of a text that goes on with a directive of a conditional has come to a place before it, unless
the statements being read have ended (`Comparison.entries_course`). -/

namespace CaseDict

open Expansion Statement

theorem Registry.name_of_standard {key : String} {d : Directive}
    (h : standard.find? key = some d) : d.name = key := by
  obtain ⟨⟨k, d'⟩, hfind, rfl⟩ := Option.map_eq_some_iff.mp h
  have hnames : ∀ p ∈ standard.entries, p.2.name = p.1 := by decide +kernel
  have hkey := List.find?_some hfind
  exact (hnames _ (List.mem_of_find?_eq_some hfind)).trans (beq_iff_eq.mp hkey)

namespace Token

variable {t : Token} {d : Nat}

theorem level_of_conditional (h : t.symbol.isDirectiveIn conditionals = true) :
    level d t = some (d + 1) := if_pos h

/-- What an `#else` and an `#endif` do to a conditional that is open. -/
theorem level_succ_of_branchEnd (h : t.symbol.isDirectiveIn branchEnds = true) :
    level (d + 1) t = some (if isOtherwise t then d + 1 else d) ∧ level 0 t = none := by
  obtain ⟨y, line⟩ := t
  cases y with
  | directive name =>
    have hname : name = "else" ∨ name = "endif" := by
      simpa [Symbol.isDirectiveIn, branchEnds, Directive.name] using h
    obtain rfl | rfl := hname <;>
      simp [level, isOtherwise, Symbol.isDirectiveIn, conditionals, Directive.name]
  | _ => contradiction

theorem branchEnd_of_level (h : level 0 t = none) :
    t.symbol.isDirectiveIn branchEnds = true := by
  obtain ⟨y, line⟩ := t
  obtain ⟨-, hy | hy⟩ := level_eq_none h
  · rw [show y = _ from hy]
    rfl
  · cases y with
    | directive name =>
      obtain rfl : name = "else" := by
        simpa [isOtherwise, Symbol.isDirectiveIn, Directive.name] using hy
      rfl
    | _ => contradiction

/-- What a branch and the directive that ends it do to a conditional that is open. -/
theorem levels_of_branch {us : List Token} (hus : WellNested us)
    (h : t.symbol.isDirectiveIn branchEnds = true) :
    levels (d + 1) (us ++ [t]) = some (if isOtherwise t then d + 1 else d) := by
  rw [levels_append, hus.levels, Option.bind_some, levels_cons, (level_succ_of_branchEnd h).1]
  rfl

end Token

/-- A branch that is passed over ends with the first directive that ends one not begun in it. -/
theorem skipped_ended {own : Directive} {t e : Token} {allow : Bool} {name : String} {line : Int}
    {us : List Token} {inner : Nat} (hus : Token.levels inner us = some 0)
    (he : e.level 0 = none) (r : Tail) (rest : List Token) :
    skipped own t allow inner (r.behind (us ++ e :: rest) name line) =
      if isOtherwise e && !allow then
        .error (misuse t (r.behind [] name line) (.secondElse e.line))
      else .ok (e, r.behind rest name (Token.lineAfter line (us ++ [e]))) := by
  have hbehind : r.behind (us ++ e :: rest) name line =
      Tail.behind ⟨e :: rest ++ r.tokens, r.fault⟩ us name line := by
    simp [Tail.behind]
  have hlines : Token.lineAfter line (us ++ [e]) =
      Token.lineAfter (Token.lineAfter line us) [e] := by
    simp [Token.lineAfter]
  rw [hbehind, skipped_behind hus, hlines]
  exact (skipped_cons 0 r e rest).trans (by rw [he]; rfl)

/-- What is read of statements before a tail, by their first token. -/
theorem gives_behind {n : Nat} {s u : ReadState} {j : Input} (setup : Setup) (budget : Nat)
    (closing : Option Heading) (stops : List String) (t : Token) (ts : List Token) (r : Tail)
    (name : String) (line : Int) (a : Option Token) :
    Gives (readEntries setup budget (runDirective setup budget) n closing stops
        (r.behind (t :: ts) name line)) s a j u ↔
      if t.symbol = .closer .brace then
        closing.isSome = true ∧ a = some t ∧ j = r.behind ts name (Token.lineAfter line [t]) ∧ u = s
      else if t.symbol = .terminator then
        Gives (readEntries setup budget (runDirective setup budget) n closing stops
          (r.behind ts name (Token.lineAfter line [t]))) s a j u
      else if t.symbol.isDirectiveIn stops then
        a = some t ∧ j = r.behind ts name (Token.lineAfter line [t]) ∧ u = s
      else ∃ es l v, Gives (readStatement setup budget (runDirective setup budget) n t
          (r.behind ts name (Token.lineAfter line [t]))) s es l v ∧
        Gives (readEntries setup budget (runDirective setup budget) n closing stops l) v a j u := by
  obtain ⟨rest, hnext, hrest⟩ := r.next_behind t ts name line
  rw [gives_readEntries hnext, hrest]

/-- What is read of a branch that is passed over. -/
theorem gives_skip {setup : Setup} {own : Directive} {t : Token} {allow : Bool} {inner : Nat}
    {i j : Input} {s u : ReadState} {a : Option Token} :
    Gives (Place.read setup (.skip own t allow inner) i) s a j u ↔
      ∃ e, a = some e ∧ skipped own t allow inner i = .ok (e, j) ∧ u = s := by
  unfold Place.read skipped
  rw [gives_lift]
  cases skipBranch own t allow inner i with
  | error f => simp [Except.map]
  | ok p =>
    obtain ⟨e, rest⟩ := p
    simp only [Except.ok.injEq, exists_eq_left', gives_pure, Except.map, Prod.mk.injEq]
    constructor
    · rintro ⟨rfl, rfl, rfl⟩
      exact ⟨e, rfl, ⟨rfl, rfl⟩, rfl⟩
    · rintro ⟨_, rfl, ⟨rfl, rfl⟩, rfl⟩
      exact ⟨rfl, rfl, rfl⟩

theorem exec_inBlock_ok {α : Type} {m : ReadM α} {s u : ReadState} {p : α × List Entry} :
    exec (inBlock m) s = (.ok p, u) ↔ ∃ t,
      exec m { s with scope := .staged [] s.scope } = (.ok p.1, t) ∧
        (p.2, u) = Follows.leaveBlock t := by
  rw [Follows.exec_inBlock_eq]
  obtain ⟨a, es⟩ := p
  rcases exec m { s with scope := .staged [] s.scope } with ⟨_ | a', t⟩
  · simp [Except.map]
  · simp only [Except.map, Except.ok.injEq, Prod.ext_iff]
    constructor
    · rintro ⟨⟨rfl, rfl⟩, rfl⟩
      exact ⟨t, ⟨rfl, rfl⟩, rfl, rfl⟩
    · rintro ⟨_, ⟨rfl, rfl⟩, rfl, rfl⟩
      exact ⟨⟨rfl, rfl⟩, rfl⟩

theorem gives_branch {entries : List String → (i : Input) → ReadM (Taken (Option Token) i)}
    {i j : Input} {s u : ReadState} {p : Option Token × List Entry} :
    Gives (branch entries i) s p j u ↔ ∃ t,
      Gives (entries branchEnds i) { s with scope := .staged [] s.scope } p.1 j t ∧
        (p.2, u) = Follows.leaveBlock t := by
  obtain ⟨ending, es⟩ := p
  unfold branch
  rw [gives_bind]
  simp only [exec_inBlock_ok, gives_pure]
  constructor
  · rintro ⟨⟨⟨ending', rest⟩, es'⟩, v, ⟨t, hx, ht⟩, heq, rfl, rfl⟩
    cases heq
    exact ⟨t, ⟨rest, hx, rfl⟩, ht⟩
  · rintro ⟨t, ⟨rest, hx, rfl⟩, ht⟩
    exact ⟨((ending, rest), es), u, ⟨t, hx, ht⟩, rfl, rfl, rfl⟩

namespace Comparison

variable {watch : Watch} {setup : Setup} {C : Comparison watch setup}

/-- The place is in a conditional that was not open before, or only the end of the text ends it. -/
abbrev Deeper (d : Nat) (P : Place) (d' : Nat) : Prop := P.IsEndless ∨ d < d'

/-- Something is done without reading on. -/
def Aside {β : Type} (op : (i : Input) → ReadM (Taken β i)) (s : ReadState) (b : β)
    (u : ReadState) : Prop := ∀ i, Gives (op i) s b i u

theorem Aside.pure {β : Type} (b : β) (s : ReadState) :
    Aside (fun i => Pure.pure (b, i.unread)) s b s := fun _ => gives_pure.mpr ⟨rfl, rfl, rfl⟩

section Asides

variable {α β : Type} {r₀ : Tail} {name : String} {post : β → β → Prop} {deep : Place → Nat → Prop}
  {d : Nat} {pre : List Token} {line : Int} {x : Scope.Kind} {neutral : List Token → Prop}

theorem Aside.course {op : (i : Input) → ReadM (Taken β i)} {s u : ReadState} {b : β}
    (h : Aside op s b u) (hneutral : neutral []) :
    C.Course r₀ name op post deep neutral d pre line x s b (r₀.behind pre name line) u :=
  .done rfl hneutral rfl fun _ i hi => hi ▸ h i

/-- Something is done with what was read. -/
theorem Course.aside {m : (i : Input) → ReadM (Taken α i)} {k : α → (i : Input) → ReadM (Taken β i)}
    {mid : α → α → Prop} {s t u : ReadState} {a : α} {b : β} {j : Input}
    (h : C.Course r₀ name m mid deep neutral d pre line x s a j t) (hk : Aside (k a) t b u)
    (hfollows : ∀ a a', mid a a' → ∀ i i', C.inputs i i' →
      Follows (C.link x) (k a i) (k a' i') (C.Leaves post)) :
    C.Course r₀ name (CaseDict.andThen m k) post deep neutral d pre line x s b j u := by
  cases h with
  | done hpre hts hj gives =>
    exact .done hpre hts hj fun r i hi => gives_andThen.mpr ⟨a, _, t, gives r i hi, hk _⟩
  | within h =>
    refine .within (h.lift (fun _ => id) (fun _ _ => id) fun r r' i i' hi hi' hends => ?_)
    refine (hends i i' hi hi').bind rfl ?_
    rintro ⟨a, rest⟩ ⟨a', rest'⟩ ⟨ha, hrest⟩
    refine .bind (hfollows a a' ha _ _ hrest) ?_
    rintro ⟨b, more⟩ ⟨b', more'⟩ ⟨hb, hmore⟩
    exact .pure ⟨hb, hmore⟩

end Asides

variable {r₀ : Tail} {name : String} {budget n : Nat} {pre : List Token} {line : Int}
  {s u : ReadState} {i₀ j : Input} {x : Scope.Kind} {d : Nat}

/-! ### Branches -/

theorem passOver_course {own : Directive} {t e : Token} {allow : Bool} (hs : C.holds x s)
    (hi₀ : i₀ = r₀.behind pre name line) (hg : Gives (passOver own t allow i₀) s e j u) :
    u = s ∧ C.Course r₀ name (passOver own t allow) C.tokens (Deeper d)
      (fun ts => ∃ us, ts = us ++ [e] ∧ Token.WellNested us ∧ e.level 0 = none ∧
        (isOtherwise e && !allow) = false) (d + 1) pre line x s e j u := by
  subst hi₀
  obtain ⟨hskip, rfl⟩ := gives_passOver.mp hg
  refine ⟨rfl, ?_⟩
  obtain ⟨d', hlevels⟩ | ⟨us, e', rest, rfl, hus, he'⟩ := Token.levels_cases 0 pre
  · have hlevels' : Token.levels (d + 1) pre = some (d' + (d + 1)) := by
      simpa using Token.levels_add hlevels (d + 1)
    have hok : Gives (Place.read setup (.skip own t allow d')
        (r₀.behind [] name (Token.lineAfter line pre))) u (some e) j u :=
      gives_skip.mpr ⟨e, rfl, skipped_behind hlevels r₀ line ▸ hskip, rfl⟩
    refine .within (.at (.skip own t allow d') hs ⟨some e, j, u, hok⟩ hlevels' trivial
      (.inr (by omega)) fun r r' i i' hi hi' hends => ?_)
    subst hi hi'
    refine C.ends_of_gives (fun e k v hg => ?_) hends
    obtain ⟨hskip, rfl⟩ := gives_passOver.mp hg
    refine ⟨some e, gives_skip.mpr ⟨e, rfl, skipped_behind hlevels r line ▸ hskip, rfl⟩, ?_⟩
    intro b k v' hb hg'
    obtain ⟨e', rfl, hskip', rfl⟩ := gives_skip.mp hg'
    cases hb with
    | some hb =>
      exact ⟨e', hb, gives_passOver.mpr ⟨skipped_behind hlevels r' line ▸ hskip', rfl⟩⟩
  · rw [skipped_ended hus he' r₀ rest] at hskip
    split at hskip
    · contradiction
    next hallow =>
    cases hskip
    refine .done (List.append_cons ..) ⟨us, rfl, hus, he', by simpa using hallow⟩ rfl fun r i hi => ?_
    rw [hi, gives_passOver, skipped_ended hus he' r rest, if_neg hallow]
    exact ⟨rfl, rfl⟩

theorem branch_course {size : Nat} (hentries : C.EntriesCourse r₀ name budget size)
    (hsize : pre.length < size) (hs : C.holds x s) (hi₀ : i₀ = r₀.behind pre name line)
    {p : Option Token × List Entry} (hg : Gives (branch (Watched.readEntries watch setup budget
      (Watched.runDirective watch setup budget) n none) i₀) s p j u) :
    C.Course r₀ name (branch (readEntries setup budget (runDirective setup budget) n none))
      (fun p q => Option.Rel C.tokens p.1 q.1 ∧ C.contents p.2 q.2) (Deeper d)
      (fun ts => C.holds x u ∧ ∃ us e, p.1 = some e ∧ ts = us ++ [e] ∧ Token.WellNested us ∧
        e.symbol.isDirectiveIn branchEnds = true) (d + 1) pre line x s p j u := by
  obtain ⟨t, hg, ht⟩ := gives_branch.mp hg
  cases hentries pre hsize n none branchEnds line (.block x) { s with scope := .staged [] s.scope }
      (d + 1) i₀ p.1 j t (List.Subset.refl _) (C.block hs) hi₀ hg with
  | done hpre hts hj gives =>
    obtain ⟨hholds, us, e, he, rfl, hus, ⟨-, hclosing⟩ | hends⟩ := hts
    · contradiction
    obtain ⟨es, below, hscope, hbelow⟩ := C.leave hholds
    refine .done hpre ⟨?_, us, e, he, rfl, hus, hends⟩ hj fun r i hi => ?_
    · rw [Follows.leaveBlock, hscope] at ht
      rwa [(Prod.mk.inj ht).2]
    · exact gives_branch.mpr ⟨t, gives r i hi, ht⟩
  | within h =>
    refine .within (h.lift (fun _ => id) (fun P l hdeep => ?_) fun r r' i i' hi hi' hends => ?_)
    · obtain hendless | hlt | ⟨-, hle⟩ := hdeep
      · exact .inl hendless
      · exact .inr (by omega)
      · exact .inr (by omega)
    · refine (C.ends_inBlock (hends i i' hi hi')).bind rfl ?_
      rintro ⟨⟨ending, rest⟩, es⟩ ⟨⟨ending', rest'⟩, es'⟩ ⟨⟨hending, hrest⟩, hes⟩
      exact .pure ⟨⟨hending, hes⟩, hrest⟩

theorem follows_readEntries {closing : Option Heading} {stops : List String} {i i' : Input}
    (hi : C.inputs i i') :
    Follows (C.link x) (readEntries setup budget (runDirective setup budget) n closing stops i)
      (readEntries setup budget (runDirective setup budget) n closing stops i')
      (C.Leaves (Option.Rel C.tokens)) :=
  (C.goesOn hi budget n closing stops).mono fun _ _ h => ⟨h.1, h.2⟩

theorem follows_passOver {own : Directive} {t : Token} {allow : Bool} {i i' : Input}
    (hi : C.inputs i i') : Follows (C.link x) (passOver own t allow i) (passOver own t allow i')
      (C.Leaves C.tokens) :=
  .lift ((C.passesOver (x := x) hi own t allow 0).mono fun _ _ _ _ h => ⟨h.1, h.2⟩)

theorem follows_branch {i i' : Input} (hi : C.inputs i i') :
    Follows (C.link x) (branch (readEntries setup budget (runDirective setup budget) n none) i)
      (branch (readEntries setup budget (runDirective setup budget) n none) i')
      (C.Leaves fun p q => Option.Rel C.tokens p.1 q.1 ∧ C.contents p.2 q.2) := by
  refine .bind (C.follows_inBlock (C.goesOn hi budget n none branchEnds)) ?_
  rintro ⟨⟨ending, rest⟩, es⟩ ⟨⟨ending', rest'⟩, es'⟩ ⟨⟨hending, hrest⟩, hes⟩
  exact .pure ⟨⟨hending, hes⟩, hrest⟩

theorem follows_andThen {α β : Type} {m : (i : Input) → ReadM (Taken α i)}
    {k k' : α → (i : Input) → ReadM (Taken β i)} {mid : α → α → Prop} {post : β → β → Prop}
    {i i' : Input} (hm : Follows (C.link x) (m i) (m i') (C.Leaves mid))
    (hk : ∀ a a', mid a a' → ∀ i i', C.inputs i i' →
      Follows (C.link x) (k a i) (k' a' i') (C.Leaves post)) :
    Follows (C.link x) (CaseDict.andThen m k i) (CaseDict.andThen m k' i') (C.Leaves post) := by
  refine .bind hm ?_
  rintro ⟨a, rest⟩ ⟨a', rest'⟩ ⟨ha, hrest⟩
  refine .bind (hk a a' ha _ _ hrest) ?_
  rintro ⟨b, more⟩ ⟨b', more'⟩ ⟨hb, hmore⟩
  exact .pure ⟨hb, hmore⟩

theorem follows_branched {own : Directive} {t : Token} {p p' : Option Token × List Entry}
    (hp : Option.Rel C.tokens p.1 p'.1 ∧ C.contents p.2 p'.2) {i i' : Input}
    (hi : C.inputs i i') :
    Follows (C.link x) (branched own t p i) (branched own t p' i') (C.Leaves C.contents) := by
  obtain ⟨⟨ending, es⟩, ⟨ending', es'⟩⟩ := p, p'
  obtain ⟨hending, hes⟩ := hp
  cases hending with
  | none => exact (Stuck.throw _).follows
  | some hending =>
    dsimp only [branched]
    rw [C.divides hending]
    split
    · exact follows_andThen (follows_passOver hi) fun _ _ _ _ _ hi => .pure ⟨hes, hi⟩
    · exact .pure ⟨hes, hi⟩

theorem follows_branchedOtherwise {own : Directive} {t : Token} {p p' : Option Token × List Entry}
    (hp : Option.Rel C.tokens p.1 p'.1 ∧ C.contents p.2 p'.2) {i i' : Input}
    (hi : C.inputs i i') : Follows (C.link x) (branchedOtherwise own t p i)
      (branchedOtherwise own t p' i') (C.Leaves C.contents) := by
  obtain ⟨⟨ending, es⟩, ⟨ending', es'⟩⟩ := p, p'
  obtain ⟨hending, hes⟩ := hp
  cases hending with
  | none => exact (Stuck.throw _).follows
  | some hending =>
    dsimp only [branchedOtherwise]
    rw [C.divides hending]
    split
    · exact (Stuck.throw _).follows
    · exact .pure ⟨hes, hi⟩

theorem branched_course {own : Directive} {t e : Token} {es es' : List Entry} (hs : C.holds x s)
    (hi₀ : i₀ = r₀.behind pre name line)
    (hg : Gives (branched own t (some e, es') i₀) s es j u) :
    C.Course r₀ name (branched own t (some e, es')) C.contents (Deeper d)
      (fun ts => Token.levels (if isOtherwise e then 1 else 0) ts = some 0)
      (if isOtherwise e then d + 1 else d) pre line x s es j u := by
  dsimp only [branched] at hg ⊢
  cases he : isOtherwise e with
  | true =>
    simp only [he, if_true] at hg ⊢
    obtain ⟨e', l, v, hpass, hrest⟩ := gives_andThen.mp hg
    obtain ⟨rfl, hcourse⟩ := passOver_course (d := d) hs hi₀ hpass
    obtain ⟨rfl, rfl, rfl⟩ := gives_pure.mp hrest
    refine (hcourse.aside (.pure _ _) fun _ _ _ _ _ hi => .pure ⟨C.same _, hi⟩).mono ?_
    rintro ts ⟨us, rfl, hus, he', hends⟩
    rw [Token.levels_of_branch hus (Token.branchEnd_of_level he')]
    simpa using hends
  | false =>
    simp only [he, Bool.false_eq_true, if_false] at hg ⊢
    obtain ⟨rfl, rfl, rfl⟩ := gives_pure.mp hg
    subst hi₀
    exact (Aside.pure _ _).course rfl

theorem gives_branchedOtherwise {own : Directive} {t e : Token} {es es' : List Entry} :
    Gives (branchedOtherwise own t (some e, es') i₀) s es j u ↔
      isOtherwise e = false ∧ es = es' ∧ j = i₀ ∧ u = s := by
  dsimp only [branchedOtherwise]
  cases isOtherwise e with
  | true => simp [not_gives_throw]
  | false =>
    rw [if_neg Bool.false_ne_true, gives_pure, and_iff_right rfl]
    rfl

theorem branchedOtherwise_aside {own : Directive} {t e : Token} {es es' : List Entry}
    (hg : Gives (branchedOtherwise own t (some e, es') i₀) s es j u) :
    Aside (branchedOtherwise own t (some e, es')) s es u := by
  obtain ⟨he, rfl, -, rfl⟩ := gives_branchedOtherwise.mp hg
  exact fun i => gives_branchedOtherwise.mpr ⟨he, rfl, rfl, rfl⟩

theorem passedOver_course {own : Directive} {t e : Token} {es : List Entry} {size : Nat}
    (hentries : C.EntriesCourse r₀ name budget size) (hsize : pre.length < size)
    (hs : C.holds x s) (hi₀ : i₀ = r₀.behind pre name line)
    (hg : Gives (passedOver (Watched.readEntries watch setup budget
      (Watched.runDirective watch setup budget) n none) own t e i₀) s es j u) :
    C.Course r₀ name
      (passedOver (readEntries setup budget (runDirective setup budget) n none) own t e) C.contents
      (Deeper d) (fun ts => Token.levels (if isOtherwise e then 1 else 0) ts = some 0)
      (if isOtherwise e then d + 1 else d) pre line x s es j u := by
  unfold passedOver at hg ⊢
  cases he : isOtherwise e with
  | true =>
    simp only [he, if_true] at hg ⊢
    obtain ⟨⟨ending, es'⟩, l, v, hb, hrest⟩ := gives_andThen.mp hg
    have hbranch := branch_course (d := d) hentries hsize hs hi₀ hb
    cases ending with
    | none => exact absurd hrest not_gives_throw
    | some e' =>
      obtain ⟨hends', -, rfl, -⟩ := gives_branchedOtherwise.mp hrest
      refine (hbranch.aside (branchedOtherwise_aside hrest)
        fun _ _ hp _ _ hi => follows_branchedOtherwise hp hi).mono ?_
      rintro ts ⟨-, vs, e', he, rfl, hvs, hends⟩
      cases he
      rw [Token.levels_of_branch hvs hends, hends']
      rfl
  | false =>
    simp only [he, Bool.false_eq_true, if_false] at hg ⊢
    obtain ⟨rfl, rfl, rfl⟩ := gives_pure.mp hg
    subst hi₀
    exact (Aside.pure _ _).course rfl

theorem follows_passedOver {own : Directive} {t e e' : Token} (he : C.tokens e e') {i i' : Input}
    (hi : C.inputs i i') :
    Follows (C.link x)
      (passedOver (readEntries setup budget (runDirective setup budget) n none) own t e i)
      (passedOver (readEntries setup budget (runDirective setup budget) n none) own t e' i')
      (C.Leaves C.contents) := by
  unfold passedOver
  rw [C.divides he]
  split
  · exact follows_andThen (follows_branch hi) fun _ _ hp _ _ hi => follows_branchedOtherwise hp hi
  · exact .pure ⟨C.same [], hi⟩

/-- A conditional is read to its end before the tail, or the read comes to a place in it. -/
theorem conditional_course {own : Directive} {t : Token} {taken : Bool} {es : List Entry}
    {size : Nat} (hentries : C.EntriesCourse r₀ name budget size) (hsize : pre.length < size)
    (hs : C.holds x s) (hi₀ : i₀ = r₀.behind pre name line)
    (hg : Gives (conditional (Watched.readEntries watch setup budget
      (Watched.runDirective watch setup budget) n none) own t taken i₀) s es j u) :
    C.Course r₀ name
      (conditional (readEntries setup budget (runDirective setup budget) n none) own t taken)
      C.contents (Deeper d) (fun ts => Token.levels 1 ts = some 0) (d + 1) pre line x s es j u := by
  refine Course.of_gives (C := C) ?_ (fun r b k v => gives_conditional)
    (fun ts _ hpre hts => ⟨ts, hpre, hts⟩) fun _ => id
  replace hg := gives_conditional.mp hg
  unfold chosen at hg ⊢
  cases taken with
  | true =>
    rw [if_pos rfl] at hg ⊢
    obtain ⟨⟨ending, es'⟩, l, v, hb, hrest⟩ := gives_andThen.mp hg
    have hbranch := branch_course (d := d) hentries hsize hs hi₀ hb
    cases ending with
    | none => exact absurd hrest not_gives_throw
    | some e =>
      refine hbranch.andThen (fun rest line' hl h => branched_course h.choose_spec.2.1 hl hrest) ?_ ?_
        (fun _ _ => id) fun _ _ hp _ _ hi => follows_branched hp hi
      · rintro ts us ⟨-, vs, e', he, rfl, hvs, hends⟩ hus
        cases he
        rwa [Token.levels_append, Token.levels_of_branch hvs hends, Option.bind_some]
      · rintro ts rest l ⟨-, vs, e', he, rfl, hvs, hends⟩ hl
        cases he
        rwa [Token.levels_append, Token.levels_of_branch hvs hends, Option.bind_some]
  | false =>
    rw [if_neg Bool.false_ne_true] at hg ⊢
    obtain ⟨e, l, v, hpass, hrest⟩ := gives_andThen.mp hg
    obtain ⟨rfl, hcourse⟩ := passOver_course (d := d) hs hi₀ hpass
    refine hcourse.andThen (fun rest line' hl h => passedOver_course hentries ?_ hs hl hrest) ?_ ?_
      (fun _ _ => id) fun _ _ he _ _ hi => follows_passedOver he hi
    · obtain ⟨ts, rfl, -⟩ := h
      rw [List.length_append] at hsize
      omega
    · rintro ts us ⟨vs, rfl, hvs, he, -⟩ hus
      rwa [Token.levels_append, Token.levels_of_branch hvs (Token.branchEnd_of_level he),
        Option.bind_some]
    · rintro ts rest l ⟨vs, rfl, hvs, he, -⟩ hl
      rwa [Token.levels_append, Token.levels_of_branch hvs (Token.branchEnd_of_level he),
        Option.bind_some]

/-! ### Directives -/

/-- A directive is being run. -/
def RunsCourse (C : Comparison watch setup) (r₀ : Tail) (name : String) (budget : Nat) : Prop :=
  ∀ pre n t dname line x s d i₀ es j u, t.symbol = .directive dname → C.holds x s →
    i₀ = r₀.behind pre name line →
    Gives (Watched.runDirective watch setup budget n t i₀) s es j u →
    ∃ l, Token.level d t = some l ∧ C.Course r₀ name (runDirective setup budget n t) C.contents
      (Deeper d) (fun ts => Token.WellNested (t :: ts)) l pre line x s es j u

/-- A directive that is not of a conditional is being run. -/
abbrev PlainCourse (C : Comparison watch setup) (r₀ : Tail) (name : String)
    (op : (i : Input) → ReadM (Taken (List Entry) i)) (d : Nat) (pre : List Token) (line : Int)
    (x : Scope.Kind) (s : ReadState) (es : List Entry) (j : Input) (u : ReadState) : Prop :=
  C.Course r₀ name op C.contents (Deeper d) Token.WellNested d pre line x s es j u

theorem included_aside {path : Option Path} {es : List Entry}
    (hg : Gives (included setup (Watched.readEntries watch setup budget
      (Watched.runDirective watch setup budget) n none) path i₀) s es j u) :
    j = i₀ ∧ Aside (included setup (readEntries setup budget (runDirective setup budget) n none) path) s es
      u := by
  cases path with
  | none =>
    obtain ⟨rfl, rfl, rfl⟩ := gives_pure.mp hg
    exact ⟨rfl, .pure [] _⟩
  | some p =>
    obtain ⟨file, t, hfile, hg⟩ := gives_bind.mp hg
    obtain ⟨⟨ending, es'⟩, v, hblock, hg⟩ := gives_bind.mp hg
    obtain ⟨rfl, rfl, rfl⟩ := gives_pure.mp hg
    have hrepeats : Watched.Repeats
        (inBlock (Watched.readEntries watch setup budget (Watched.runDirective watch setup budget) n
          none [] file))
        (inBlock (readEntries setup budget (runDirective setup budget) n none [] file)) :=
      (Watched.readEntries_repeats (Watched.runDirective_repeats budget) file n none []).inBlock
    have hblock := hrepeats.ok hblock
    exact ⟨rfl, fun i => gives_bind.mpr ⟨file, t, hfile, gives_bind.mpr ⟨_, _, hblock,
      gives_pure.mpr ⟨rfl, rfl, rfl⟩⟩⟩⟩

theorem removing_aside {t : Token} {names : List Token} {es : List Entry}
    (hg : Gives (removing t names i₀) s es j u) : j = i₀ ∧ Aside (removing t names) s es u := by
  obtain ⟨b, v, hremove, hg⟩ := gives_bind.mp hg
  obtain ⟨rfl, rfl, rfl⟩ := gives_pure.mp hg
  exact ⟨rfl, fun i => gives_bind.mpr
    ⟨b, _, exec_remove_ok.mp hremove, gives_pure.mpr ⟨rfl, rfl, rfl⟩⟩⟩

theorem changeMode_course (hr₀ : r₀.Branches) {t : Token} {es : List Entry}
    (hi₀ : i₀ = r₀.behind pre name line) (hg : Gives (changeMode setup t i₀) s es j u) :
    C.PlainCourse r₀ name (changeMode setup t) d pre line x s es j u := by
  subst hi₀
  obtain ⟨w, l, rest, mode, hnext, hmode, rfl, rfl, rfl⟩ := gives_changeMode.mp hg
  cases pre with
  | nil =>
    obtain ⟨a, rest', hnext', ha⟩ := next_of_branches hr₀ name line
    rw [hnext] at hnext'
    cases hnext'
    contradiction
  | cons a pre =>
    obtain ⟨rest', hnext', hrest'⟩ := r₀.next_behind a pre name line
    rw [hnext] at hnext'
    cases hnext'
    refine .done (List.singleton_append ..).symm ((Token.wellNested_cons rfl).mpr rfl) hrest' fun r i hi => ?_
    subst hi
    obtain ⟨rest, hnext, hrest⟩ := r.next_behind ⟨.word w, l⟩ pre name line
    exact gives_changeMode.mpr ⟨w, l, rest, mode, hnext, hmode, rfl, hrest.symm, rfl⟩

/-- What is expanded before the tail changes nothing but what is reported. -/
theorem Passes.expanded {α : Type} {op : (i : Input) → ReadM (Taken α i)} {a : α}
    (h : Passes r₀ name op pre line s a j u) (hs : C.holds x s) : C.holds x u := by
  obtain ⟨-, -, -, -, -, -, ⟨log, rfl⟩, -⟩ := h
  exact C.reporting hs log

/-! ### What is placed -/

/-- A reference in place of a keyword, with something behind it before the tail. -/
theorem splice_course {ref : String} {t a : Token} {es : List Entry}
    {mid : List Entry → List Entry → Prop} {deep : Place → Nat → Prop}
    (hi₀ : i₀ = r₀.behind (a :: pre) name line) (hg : Gives (splice setup ref t i₀) s es j u) :
    u = s ∧ C.Course r₀ name (splice setup ref t) mid deep Token.WellNested d (a :: pre) line x s es
      j u := by
  subst hi₀
  obtain ⟨hspliced, hsheds, rfl⟩ := gives_splice.mp hg
  obtain ⟨y, l⟩ := a
  have hshed (r : Tail) (k : Input) : (r.behind (⟨y, l⟩ :: pre) name line).Sheds k ↔
      k = if y = .terminator then r.behind pre name (Token.lineAfter line [⟨y, l⟩])
        else r.behind (⟨y, l⟩ :: pre) name line := by
    obtain ⟨rest, hnext, hrest⟩ := r.next_behind ⟨y, l⟩ pre name line
    unfold Input.Sheds
    rw [hnext]
    cases y <;> simp [hrest]
  have hgives (r : Tail) : Gives (splice setup ref t (r.behind (⟨y, l⟩ :: pre) name line)) u es
      (if y = .terminator then r.behind pre name (Token.lineAfter line [⟨y, l⟩])
        else r.behind (⟨y, l⟩ :: pre) name line) u :=
    gives_splice.mpr ⟨hspliced, (hshed r _).mpr rfl, rfl⟩
  obtain rfl := (hshed r₀ _).mp hsheds
  refine ⟨rfl, ?_⟩
  by_cases hy : y = .terminator
  · simp only [if_pos hy] at hgives ⊢
    refine .done (List.singleton_append ..).symm ?_ rfl fun r i hi => hi ▸ hgives r
    exact (Token.wellNested_cons (by rw [hy]; rfl)).mpr rfl
  · simp only [if_neg hy] at hgives ⊢
    exact .done (List.nil_append _).symm rfl rfl fun r i hi => hi ▸ hgives r

theorem aside_placingAll {es es' : List Entry} (hg : Gives (placingAll es i₀) s es' j u) :
    j = i₀ ∧ Aside (placingAll es) s es' u := by
  obtain ⟨b, v, hplace, hg⟩ := gives_bind.mp hg
  obtain ⟨rfl, rfl, rfl⟩ := gives_pure.mp hg
  exact ⟨rfl, fun i => gives_bind.mpr ⟨_, _, hplace, gives_pure.mpr ⟨rfl, rfl, rfl⟩⟩⟩

theorem aside_placing {e : Entry} {es : List Entry} (hg : Gives (placing e i₀) s es j u) :
    j = i₀ ∧ Aside (placing e) s es u := by
  obtain ⟨b, v, hplace, hg⟩ := gives_bind.mp hg
  obtain ⟨rfl, rfl, rfl⟩ := gives_pure.mp hg
  exact ⟨rfl, fun i => gives_bind.mpr ⟨_, _, hplace, gives_pure.mpr ⟨rfl, rfl, rfl⟩⟩⟩

theorem follows_placingAll {es es' : List Entry} (h : C.contents es es') {i i' : Input}
    (hi : C.inputs i i') :
    Follows (C.link x) (placingAll es i) (placingAll es' i') (C.Leaves Any) :=
  .bind (C.placesAll h) fun _ _ _ => .pure ⟨trivial, hi⟩

theorem follows_placing {e e' : Entry} (h : C.entry e e') {i i' : Input} (hi : C.inputs i i') :
    Follows (C.link x) (placing e i) (placing e' i') (C.Leaves Any) :=
  .bind (C.places h) fun _ _ _ => .pure ⟨trivial, hi⟩

section Runs

variable (hr₀ : r₀.Branches) (hregistry : setup.registry = .standard)

include hr₀ hregistry

theorem argument_course {deep : Place → Nat → Prop} {a : List Token} (hs : C.holds x s)
    (hi₀ : i₀ = r₀.behind pre name line) (hg : Gives (argument setup budget i₀) s a j u) :
    C.holds x u ∧ C.Course r₀ name (argument setup budget) (fun _ _ => False) deep
      Token.WellNested d pre line x s a j u := by
  have hpasses := argument_passing hr₀ hi₀ hregistry budget hg
  exact ⟨hpasses.expanded hs, hpasses.course⟩

/-- A conditional whose condition is read first. -/
theorem conditioned_course {es : List Entry}
    {k k' : List Token → (i : Input) → ReadM (Taken (List Entry) i)} {neutral : List Token → Prop}
    (hneutral : ∀ ts us, Token.WellNested ts → Token.levels 1 us = some 0 → neutral (ts ++ us))
    (hk : ∀ condition rest line' l v, C.holds x v → l = r₀.behind rest name line' →
      Gives (k condition l) v es j u → C.Course r₀ name (k' condition) C.contents (Deeper d)
        (fun ts => Token.levels 1 ts = some 0) (d + 1) rest line' x v es j u)
    (hs : C.holds x s) (hi₀ : i₀ = r₀.behind pre name line)
    (hg : Gives (andThen (argument setup budget) k i₀) s es j u) :
    C.Course r₀ name (andThen (argument setup budget) k') C.contents (Deeper d) neutral (d + 1) pre
      line x s es j u := by
  obtain ⟨condition, l, v, hargument, hrest⟩ := gives_andThen.mp hg
  obtain ⟨hv, hcourse⟩ := argument_course (d := d + 1) hr₀ hregistry hs hi₀ hargument
  refine hcourse.andThen (fun rest line' hl _ => hk condition rest line' l v hv hl hrest) hneutral ?_
    (fun _ _ => id) fun _ _ h => h.elim
  intro ts rest l hts hl
  rwa [Token.levels_append, hts.levels, Option.bind_some]

theorem runs_succ (hentries : ∀ size, C.EntriesCourse r₀ name budget size) :
    C.RunsCourse r₀ name (budget + 1) := by
  intro pre n t dname line x s d i₀ es j u ht hs hi₀ hg
  obtain ⟨dir, hget, hg⟩ := Watched.gives_runDirective.mp hg
  subst hi₀
  have hname : dname = dir.name := by
    rw [hregistry, ht, Registry.get] at hget
    cases hfind : Registry.standard.find? (Symbol.directive dname).value with
    | none =>
      rw [hfind] at hget
      contradiction
    | some dir' =>
      rw [hfind] at hget
      obtain rfl := Except.ok.inj hget
      exact (Registry.name_of_standard hfind).symm
  have hop (r : Tail) (b : List Entry) (k : Input) (v : ReadState) :
      Gives (runDirective setup (budget + 1) n t (r.behind pre name line)) s b k v ↔
        Gives (directed setup budget (readEntries setup budget (runDirective setup budget) n none) t
          dir (r.behind pre name line)) s b k v := by
    rw [gives_runDirective]
    constructor
    · rintro ⟨dir', hget', h⟩
      cases hget.symm.trans hget'
      exact h
    · exact fun h => ⟨dir, hget, h⟩
  have hplain (hbranching : t.isBranching = false)
      (h : C.PlainCourse r₀ name (directed setup budget
        (readEntries setup budget (runDirective setup budget) n none) t dir) d pre line x s es j u) :
      ∃ l, Token.level d t = some l ∧ C.Course r₀ name (runDirective setup (budget + 1) n t)
        C.contents (Deeper d) (fun ts => Token.WellNested (t :: ts)) l pre line x s es j u := by
    refine ⟨d, Token.level_of_not_branching hbranching d, h.of_gives hop ?_ fun _ => id⟩
    exact fun ts _ hpre hts => ⟨ts, hpre, (Token.wellNested_cons hbranching).mpr hts⟩
  have hconditional (hopens : t.symbol.isDirectiveIn conditionals = true)
      (h : C.Course r₀ name (directed setup budget
        (readEntries setup budget (runDirective setup budget) n none) t dir) C.contents (Deeper d)
        (fun ts => Token.levels 1 ts = some 0) (d + 1) pre line x s es j u) :
      ∃ l, Token.level d t = some l ∧ C.Course r₀ name (runDirective setup (budget + 1) n t)
        C.contents (Deeper d) (fun ts => Token.WellNested (t :: ts)) l pre line x s es j u := by
    refine ⟨d + 1, Token.level_of_conditional hopens, h.of_gives hop ?_ fun _ => id⟩
    refine fun ts _ hpre hts => ⟨ts, hpre, ?_⟩
    rwa [Token.WellNested, Token.levels_cons, Token.level_of_conditional hopens]
  have hbranch (taken : Bool) (own : Directive) {rest : List Token} {line' : Int} {l : Input}
      {v : ReadState} (hv : C.holds x v) (hl : l = r₀.behind rest name line')
      (hg : Gives (conditional (Watched.readEntries watch setup budget
        (Watched.runDirective watch setup budget) n none) own t taken l) v es j u) :=
    conditional_course (d := d) (hentries (rest.length + 1)) (Nat.lt_succ_self _) hv hl hg
  have hlevels (ts us : List Token) (hts : Token.WellNested ts)
      (hus : Token.levels 1 us = some 0) : Token.levels 1 (ts ++ us) = some 0 := by
    rwa [Token.levels_append, hts.levels, Option.bind_some]
  unfold directed at hg
  obtain ⟨y, tline⟩ := t
  obtain rfl : y = _ := ht
  subst hname
  cases dir with
  | includeFile optional =>
    obtain ⟨path, l, v, hlocate, hrest⟩ := gives_andThen.mp hg
    obtain ⟨rfl, haside⟩ := included_aside hrest
    have hcourse : C.Course r₀ name _ (fun _ _ => False) (Deeper d) _ d pre line x s path j v :=
      (locate_passing hr₀ rfl optional _ hlocate).course
    refine hplain ?_ (hcourse.aside haside fun _ _ h => h.elim)
    cases optional <;> rfl
  | remove =>
    obtain ⟨names, l, v, hargument, hrest⟩ := gives_andThen.mp hg
    obtain ⟨rfl, haside⟩ := removing_aside hrest
    obtain ⟨-, hcourse⟩ := argument_course (d := d) hr₀ hregistry hs rfl hargument
    exact hplain rfl (hcourse.aside haside fun _ _ h => h.elim)
  | inputMode => exact hplain rfl (changeMode_course hr₀ rfl hg)
  | ifTrue =>
    refine hconditional rfl ?_
    refine conditioned_course hr₀ hregistry hlevels (fun condition rest line' l v hv hl hrest => ?_)
      hs rfl hg
    unfold switched at hrest ⊢
    cases hswitch : Switch.ofTokens condition with
    | none =>
      rw [hswitch] at hrest
      exact absurd hrest not_gives_throw
    | some taken =>
      rw [hswitch] at hrest
      exact hbranch taken .ifTrue hv hl hrest
  | ifEqual =>
    refine hconditional rfl ?_
    unfold directed
    refine conditioned_course hr₀ hregistry hlevels (fun left rest line' l v hv hl hrest => ?_) hs rfl hg
    exact conditioned_course hr₀ hregistry hlevels
      (fun right rest line' l v hv hl hrest => hbranch _ .ifEqual hv hl hrest) hv hl hrest
  | otherwise | endIf | calculate | negate | blank => exact absurd hg not_gives_throw

/-! ### Statements -/

theorem statement_course {t : Token} {es : List Entry} (hruns : C.RunsCourse r₀ name budget)
    (hentries : C.EntriesCourse r₀ name budget pre.length) (hs : C.holds x s)
    (hlone : pre = [] → ∀ ref, t.symbol ≠ .reference ref) (hi₀ : i₀ = r₀.behind pre name line)
    (hg : Gives (Watched.readStatement watch setup budget (Watched.runDirective watch setup budget) n
      t i₀) s es j u) :
    ∃ l, Token.level d t = some l ∧
      C.Course r₀ name (readStatement setup budget (runDirective setup budget) n t) Any (Deeper d)
        (fun ts => Token.WellNested (t :: ts)) l pre line x s es j u := by
  obtain ⟨-, hg⟩ := Watched.gives_readStatement.mp hg
  have hop (r : Tail) (b : List Entry) (k : Input) (v : ReadState) :
      Gives (readStatement setup budget (runDirective setup budget) n t (r.behind pre name line)) s b k
        v ↔ Gives (stated setup (runDirective setup budget n)
          (readEntry setup budget (runDirective setup budget) n) t (r.behind pre name line)) s b k v :=
    gives_readStatement
  have hplain (hbranching : t.isBranching = false)
      (h : C.Course r₀ name (stated setup (runDirective setup budget n)
        (readEntry setup budget (runDirective setup budget) n) t) Any (Deeper d) Token.WellNested d
        pre line x s es j u) :
      ∃ l, Token.level d t = some l ∧
        C.Course r₀ name (readStatement setup budget (runDirective setup budget) n t) Any (Deeper d)
          (fun ts => Token.WellNested (t :: ts)) l pre line x s es j u := by
    refine ⟨d, Token.level_of_not_branching hbranching d, h.of_gives hop ?_ fun _ => id⟩
    exact fun ts _ hpre hts => ⟨ts, hpre, (Token.wellNested_cons hbranching).mpr hts⟩
  obtain ⟨y, tline⟩ := t
  unfold stated at hg
  cases y with
  | directive dname =>
    obtain ⟨es', l, v, hrun, hplace⟩ := gives_andThen.mp hg
    obtain ⟨rfl, haside⟩ := aside_placingAll hplace
    obtain ⟨l, hl, hcourse⟩ := hruns pre n _ dname line x s d i₀ es' j v rfl hs hi₀ hrun
    refine ⟨l, hl, (hcourse.aside haside fun _ _ h _ _ hi => follows_placingAll h hi).of_gives hop ?_
      fun _ => id⟩
    exact fun ts _ hpre hts => ⟨ts, hpre, hts⟩
  | reference ref =>
    cases pre with
    | nil => exact absurd rfl (hlone rfl ref)
    | cons a pre =>
      obtain ⟨es', l, v, hsplice, hplace⟩ := gives_andThen.mp hg
      obtain ⟨rfl, haside⟩ := aside_placingAll hplace
      obtain ⟨-, hcourse⟩ := splice_course (C := C) (x := x) hi₀ hsplice
      exact hplain rfl (hcourse.aside haside fun _ _ h _ _ hi => follows_placingAll h hi)
  | word w | quoted w =>
    obtain ⟨e, l, v, hentry, hplace⟩ := gives_andThen.mp hg
    obtain ⟨rfl, haside⟩ := aside_placing hplace
    have hcourse := C.readEntry_course (d := d) hr₀ hregistry hs hentries hi₀ hentry
    exact hplain rfl (hcourse.aside haside fun _ _ h _ _ hi => follows_placing h hi)
  | _ => exact absurd hg not_gives_throw

/-- Statements are read to their end before the tail, or the read comes to a place before it. -/
theorem entries_course_of_runs (hruns : C.RunsCourse r₀ name budget) (size : Nat) :
    C.EntriesCourse r₀ name budget size := by
  induction size with
  | zero => intro pre hlt; omega
  | succ size ih =>
    intro pre hlt n closing stops line x s d i₀ a j u hstops hs hi₀ hg
    subst hi₀
    cases pre with
    | nil =>
      refine .within (.at (.entries budget n closing stops) hs ⟨a, j, u, hg⟩ rfl hstops ?_
        fun r r' i i' hi hi' hends => hi ▸ hi' ▸ hends)
      by_cases hempty : stops = []
      · exact .inl hempty
      · exact .inr (.inr ⟨hempty, Nat.le_refl d⟩)
    | cons t pre =>
      replace hlt : pre.length < size := Nat.lt_of_succ_lt_succ hlt
      obtain ⟨rest₀, hnext, hrest⟩ := r₀.next_behind t pre name line
      rw [Watched.gives_readEntries hnext, hrest] at hg
      have hop (r : Tail) (b : Option Token) (k : Input) (v : ReadState) :=
        gives_behind (n := n) (s := s) (j := k) (u := v) setup budget closing stops t pre r name line b
      by_cases hbrace : t.symbol = .closer .brace
      · simp only [if_pos hbrace] at hg hop
        obtain ⟨hsome, rfl, rfl, rfl⟩ := hg
        refine .done (List.singleton_append ..).symm ⟨hs, [], t, rfl, rfl, rfl, .inl ⟨hbrace, hsome⟩⟩
          rfl fun r i hi => ?_
        exact hi ▸ (hop r _ _ _).mpr ⟨hsome, rfl, rfl, rfl⟩
      simp only [if_neg hbrace] at hg hop
      by_cases hterminator : t.symbol = .terminator
      · simp only [if_pos hterminator] at hg hop
        have hbranching : t.isBranching = false := by
          rw [Token.isBranching, hterminator]
          rfl
        refine (ih pre hlt n closing stops _ x s d _ a j u hstops hs rfl hg).of_gives hop ?_ ?_
        · rintro ts rest hpre ⟨hholds, us, t', ha, rfl, hus, hends⟩
          exact ⟨t :: (us ++ [t']), by rw [hpre]; rfl, hholds, t :: us, t', ha, rfl,
            (Token.wellNested_cons hbranching).mpr hus, hends⟩
        · intro l hl
          rwa [Token.levels_cons_of_not_branching hbranching]
      simp only [if_neg hterminator] at hg hop
      by_cases hstop : t.symbol.isDirectiveIn stops = true
      · simp only [if_pos hstop] at hg hop
        obtain ⟨rfl, rfl, rfl⟩ := hg
        refine .done (List.singleton_append ..).symm ⟨hs, [], t, rfl, rfl, rfl, .inr hstop⟩
          rfl fun r i hi => ?_
        exact hi ▸ (hop r _ _ _).mpr ⟨rfl, rfl, rfl⟩
      simp only [if_neg hstop] at hg hop
      obtain ⟨es, l, v, hstatement, hloop⟩ := hg
      have hv : C.holds x v := by
        obtain ⟨left, hx, -⟩ := hstatement
        exact C.statement hs hx
      by_cases hlone : pre = [] ∧ ∃ ref, t.symbol = .reference ref
      · obtain ⟨rfl, ref, href⟩ := hlone
        obtain ⟨y, tline⟩ := t
        obtain rfl : y = _ := href
        obtain ⟨-, hstated⟩ := Watched.gives_readStatement.mp hstatement
        obtain ⟨es', hspliced, hsheds, hplace⟩ := gives_stated_reference.mp hstated
        -- What comes next is no terminator, so the reference is not ended.
        obtain rfl : l = r₀.behind [] name (Token.lineAfter line [⟨.reference ref, tline⟩]) := by
          obtain ⟨⟨y, yline⟩, rest, hnext, hbranching⟩ :=
            next_of_branches hr₀ name (Token.lineAfter line [⟨.reference ref, tline⟩])
          rw [Input.Sheds, hnext] at hsheds
          cases y with
          | directive => exact hsheds
          | _ => contradiction
        refine .within (.at (.entries budget n closing stops) hv ⟨a, j, u, hloop⟩ rfl hstops ?_ ?_)
        · by_cases hempty : stops = []
          · exact .inl hempty
          · exact .inr (.inr ⟨hempty, Nat.le_refl d⟩)
        · intro r r' i i' hi hi' hends
          subst hi hi'
          refine C.ends_congr (fun b k w hg => ?_) (fun b k w hg => ?_) hends
          · exact (gives_readEntries_reference hspliced hplace).mp ((hop r b k w).mp hg)
          · exact (hop r' b k w).mpr ((gives_readEntries_reference hspliced hplace).mpr hg)
      · obtain ⟨level, hlevel, hcourse⟩ := statement_course (d := d) hr₀ hregistry hruns
          (fun pre' hlt' => ih pre' (hlt'.trans hlt)) hs
          (fun hpre ref href => hlone ⟨hpre, ref, href⟩) rfl hstatement
        have hboth : C.Course r₀ name
            (andThen (readStatement setup budget (runDirective setup budget) n t) fun _ i =>
              readEntries setup budget (runDirective setup budget) n closing stops i)
            (Option.Rel C.tokens) (fun P l => P.IsEndless ∨ d < l ∨ stops ≠ [] ∧ d ≤ l)
            (fun ts => C.holds x u ∧ ∃ us t', a = some t' ∧ ts = us ++ [t'] ∧
              Token.WellNested (t :: us) ∧ (t'.symbol = .closer .brace ∧ closing.isSome = true ∨
                t'.symbol.isDirectiveIn stops = true))
            level pre (Token.lineAfter line [t]) x s a j u := by
          refine (hcourse.deepen fun P l => Or.imp_right .inl).andThen
            (fun rest line' hl h => ih rest ?_ n closing stops line' x v d l a j u hstops hv hl hloop)
            ?_ ?_ (fun _ _ => id)
            fun _ _ _ _ _ hi => follows_readEntries hi
          · obtain ⟨ts, rfl, -⟩ := h
            rw [List.length_append] at hlt
            omega
          · rintro ts ts' hts ⟨hu, us, t', ha, rfl, hus, hends⟩
            exact ⟨hu, ts ++ us, t', ha, by rw [List.append_assoc], hts.append hus, hends⟩
          · intro ts rest k hts hrest
            have hlevels := hts.levels d
            rw [Token.levels_cons, hlevel, Option.bind_some] at hlevels
            rwa [Token.levels_append, hlevels, Option.bind_some]
        refine hboth.of_gives (fun r b k w => (hop r b k w).trans gives_andThen.symm) ?_ ?_
        · rintro ts rest hpre ⟨hu, us, t', ha, rfl, hus, hends⟩
          exact ⟨t :: (us ++ [t']), by rw [hpre]; rfl, hu, t :: us, t', ha, rfl, hus, hends⟩
        · intro k hk
          rwa [Token.levels_cons, hlevel]

theorem runs_course (budget : Nat) : C.RunsCourse r₀ name budget := by
  induction budget with
  | zero =>
    intro pre n t dname line x s d i₀ es j u ht hs hi₀ hg
    exact absurd hg not_gives_throw
  | succ budget ih => exact runs_succ hr₀ hregistry (entries_course_of_runs hr₀ hregistry ih)

theorem entries_course (budget size : Nat) : C.EntriesCourse r₀ name budget size :=
  entries_course_of_runs hr₀ hregistry (runs_course hr₀ hregistry budget) size

end Runs

end Comparison

/-! ### Branches that are read -/

/-- The tail begins with a directive that ends a branch. -/
def Tail.Closes (r : Tail) : Prop :=
  ∃ t more, r.tokens = t :: more ∧ t.symbol.isDirectiveIn branchEnds = true

theorem Token.isBranching_of_branchEnd {t : Token}
    (h : t.symbol.isDirectiveIn branchEnds = true) : t.isBranching = true := by
  obtain ⟨y, line⟩ := t
  cases y with
  | directive name =>
    have hname : name = "else" ∨ name = "endif" := by
      simpa [Symbol.isDirectiveIn, branchEnds, Directive.name] using h
    obtain rfl | rfl := hname <;> rfl
  | _ => contradiction

theorem Tail.Closes.branches {r : Tail} (h : r.Closes) : r.Branches := by
  obtain ⟨t, more, hr, ht⟩ := h
  exact ⟨t, more, hr, Token.isBranching_of_branchEnd ht⟩

/-- A directive that ends a branch has no meaning as a statement. -/
theorem not_gives_branchEnd {watch : Watch} {setup : Setup} (hregistry : setup.registry = .standard)
    {budget n : Nat} {t : Token} (ht : t.symbol.isDirectiveIn branchEnds = true) {i j : Input}
    {s u : ReadState} {es : List Entry} : ¬Gives (Watched.readStatement watch setup budget
      (Watched.runDirective watch setup budget) n t i) s es j u := by
  intro hg
  obtain ⟨-, hg⟩ := Watched.gives_readStatement.mp hg
  obtain ⟨y, line⟩ := t
  cases y with
  | directive name =>
    have hname : name = "else" ∨ name = "endif" := by
      simpa [Symbol.isDirectiveIn, branchEnds, Directive.name] using ht
    obtain ⟨es', l, v, hrun, -⟩ := gives_andThen.mp hg
    cases budget with
    | zero => exact not_gives_throw hrun
    | succ budget =>
      obtain ⟨dir, hget, hrun⟩ := Watched.gives_runDirective.mp hrun
      rw [hregistry] at hget
      obtain rfl | rfl := hname <;> cases hget <;> exact not_gives_throw hrun
  | _ => contradiction

theorem not_gives_endless {watch : Watch} {setup : Setup} {r : Tail} (hr : r.Closes)
    (hregistry : setup.registry = .standard) {budget n : Nat} {closing : Option Heading}
    {name : String} {line : Int} {s u : ReadState} {a : Option Token} {j : Input} :
    ¬Gives (Watched.readEntries watch setup budget (Watched.runDirective watch setup budget) n closing
      [] (r.behind [] name line)) s a j u := by
  obtain ⟨tokens, fault⟩ := r
  obtain ⟨t, more, rfl, ht⟩ := hr
  intro hg
  have hne : t.symbol ≠ .closer .brace ∧ t.symbol ≠ .terminator := by
    constructor <;> intro h <;> rw [h] at ht <;> contradiction
  have hnext : (Tail.behind ⟨t :: more, fault⟩ [] name line).next =
      .ok (some (t, ⟨_, Input.size_after_lt rfl⟩)) := rfl
  rw [Watched.gives_readEntries hnext, if_neg hne.1, if_neg hne.2, if_neg] at hg
  · obtain ⟨es, l, v, hstatement, -⟩ := hg
    exact not_gives_branchEnd hregistry ht hstatement
  · obtain ⟨y, l⟩ := t
    cases y <;> simp [Symbol.isDirectiveIn]

theorem Symbol.isDirectiveIn_mono {names names' : List String} {y : Symbol} (h : names ⊆ names')
    (hy : y.isDirectiveIn names = true) : y.isDirectiveIn names' = true := by
  cases y with
  | directive name =>
    simp only [isDirectiveIn, List.contains_iff_mem] at hy ⊢
    exact h hy
  | _ => contradiction

namespace Comparison

variable {watch : Watch} {setup : Setup} {C : Comparison watch setup} {r₀ : Tail} (hr₀ : r₀.Closes)
  (hregistry : setup.registry = .standard) {name : String} {budget n : Nat}

include hr₀ hregistry

/-- The statements of a branch that is read are read alike whatever is behind them. -/
theorem branch_statements {pre : List Token} {line : Int} {x : Scope.Kind} {s u : ReadState}
    {a : Option Token} {j : Input} (hpre : Token.WellNested pre) (hs : C.holds x s)
    (hg : Gives (Watched.readEntries watch setup budget (Watched.runDirective watch setup budget) n
      none branchEnds (r₀.behind pre name line)) s a j u) :
    ∃ s' line', C.holds x s' ∧ ∀ (r : Tail) closing stops b k w, stops ⊆ branchEnds →
      (Gives (readEntries setup budget (runDirective setup budget) n closing stops
          (r.behind pre name line)) s b k w ↔
        Gives (readEntries setup budget (runDirective setup budget) n closing stops
          (r.behind [] name line')) s' b k w) := by
  induction hn : pre.length using Nat.strongRecOn generalizing pre line s with
  | ind size ih =>
    cases pre with
    | nil => exact ⟨s, line, hs, fun _ _ _ _ _ _ _ => .rfl⟩
    | cons t pre =>
      subst hn
      obtain ⟨rest₀, hnext, hrest⟩ := r₀.next_behind t pre name line
      rw [Watched.gives_readEntries hnext, hrest] at hg
      split at hg
      · exact absurd hg.1 Bool.false_ne_true
      next hbrace =>
      split at hg
      · next hterminator =>
        have hbranching : t.isBranching = false := by
          rw [Token.isBranching, hterminator]
          rfl
        obtain ⟨s', line', hs', hiff⟩ := ih pre.length (Nat.lt_succ_self _)
          ((Token.wellNested_cons hbranching).mp hpre) hs hg rfl
        refine ⟨s', line', hs', fun r closing stops b k w hstops => ?_⟩
        rw [gives_behind, if_neg hbrace, if_pos hterminator]
        exact hiff r closing stops b k w hstops
      next hterminator =>
      split at hg
      · next hends =>
        rw [Token.WellNested, Token.levels_cons, (Token.level_succ_of_branchEnd (d := 0) hends).2] at hpre
        contradiction
      next hends =>
      obtain ⟨es, l, v, hstatement, hloop⟩ := hg
      have hv : C.holds x v := by
        obtain ⟨left, hx, -⟩ := hstatement
        exact C.statement hs hx
      have hop (r : Tail) (closing : Option Heading) (stops : List String) (b : Option Token)
          (k : Input) (w : ReadState) (hstops : stops ⊆ branchEnds) :
          Gives (readEntries setup budget (runDirective setup budget) n closing stops
              (r.behind (t :: pre) name line)) s b k w ↔
            ∃ es l v, Gives (readStatement setup budget (runDirective setup budget) n t
                (r.behind pre name (Token.lineAfter line [t]))) s es l v ∧
              Gives (readEntries setup budget (runDirective setup budget) n closing stops l) v b k w := by
        rw [gives_behind, if_neg hbrace, if_neg hterminator, if_neg]
        exact fun h => hends (Symbol.isDirectiveIn_mono hstops h)
      by_cases hlone : pre = [] ∧ ∃ ref, t.symbol = .reference ref
      · obtain ⟨rfl, ref, href⟩ := hlone
        obtain ⟨y, tline⟩ := t
        obtain rfl : y = _ := href
        obtain ⟨-, hstated⟩ := Watched.gives_readStatement.mp hstatement
        obtain ⟨es', hspliced, -, hplace⟩ := gives_stated_reference.mp hstated
        refine ⟨v, Token.lineAfter line [⟨.reference ref, tline⟩], hv, fun r closing stops b k w h => ?_⟩
        exact (hop r closing stops b k w h).trans (gives_readEntries_reference hspliced hplace)
      obtain ⟨level, hlevel, hcourse⟩ := statement_course (d := 0) hr₀.branches hregistry
        (runs_course hr₀.branches hregistry budget) (entries_course hr₀.branches hregistry budget _) hs
        (fun hpre ref href => hlone ⟨hpre, ref, href⟩) rfl hstatement
      rw [Token.WellNested, Token.levels_cons, hlevel, Option.bind_some] at hpre
      cases hcourse with
      | @done ts rest line' hrest hts hj gives =>
        subst hj
        rw [hrest, Token.levels_append] at hpre
        have hlevels : Token.levels level ts = some 0 := by
          rwa [Token.WellNested, Token.levels_cons, hlevel, Option.bind_some] at hts
        rw [hlevels, Option.bind_some] at hpre
        have hlt : rest.length < (t :: pre).length := by
          rw [hrest, List.length_cons, List.length_append]
          omega
        obtain ⟨s', line'', hs', hiff⟩ := ih rest.length hlt hpre hv hloop rfl
        refine ⟨s', line'', hs', fun r closing stops b k w hstops => ?_⟩
        rw [hop r closing stops b k w hstops, ← hiff r closing stops b k w hstops]
        obtain ⟨left, hx, hleft⟩ := gives r _ rfl
        constructor
        · rintro ⟨es', l, v', ⟨left', hx', rfl⟩, hrest⟩
          cases hx.symm.trans hx'
          rwa [hleft] at hrest
        · exact fun hrest => ⟨es, _, v, ⟨left, hx, hleft⟩, hrest⟩
      | within h =>
        obtain ⟨P, -, ⟨b, k, w, hok⟩, hlevels, -, hendless | hlt, -⟩ := h
        · cases P with
          | entries budget' nesting closing stops =>
            obtain rfl : stops = [] := hendless
            exact absurd hok (not_gives_endless hr₀ hregistry)
          | skip => exact hendless.elim
        · rw [hpre] at hlevels
          obtain rfl := Option.some.inj hlevels
          omega

end Comparison

namespace Comparison

variable {watch : Watch} {setup : Setup} {C : Comparison watch setup} {r₀ : Tail}

section Ends

variable {α β : Type} {i i' : Input} {x : Scope.Kind} {m : ReadM (Taken α i)}
  {m' : ReadM (Taken β i')} {s s' u : ReadState}

theorem ends_of_forall {post : α → β → Prop}
    (h : ∀ a j u, Gives m s a j u → ∃ b j' u', Gives m' s' b j' u' ∧ post a b ∧ C.inputs j j' ∧
      C.rel x u u') : (C.link x).Ends (C.Leaves post) (exec m s) (exec m' s') := by
  rcases hm : exec m s with ⟨_ | ⟨a, rest⟩, u⟩
  · exact .parted trivial (.of_none rfl)
  · obtain ⟨b, j', u', ⟨rest', hm', rfl⟩, hpost, hinputs, hrel⟩ := h a _ u ⟨rest, hm, rfl⟩
    rw [hm']
    exact .ok ⟨hpost, hinputs⟩ hrel

theorem gives_of_ends {post : α → β → Prop} {a : α} {j : Input}
    (h : (C.link x).Ends (C.Leaves post) (exec m s) (exec m' s')) (hg : Gives m s a j u) :
    ∃ b j' u', Gives m' s' b j' u' ∧ post a b ∧ C.inputs j j' ∧ C.rel x u u' := by
  obtain ⟨rest, hm, rfl⟩ := hg
  rw [hm] at h
  generalize hm' : exec m' s' = p at h
  cases h with
  | @ok _ b _ u' hpost hu => exact ⟨b.1, _, u', ⟨b.2, hm', rfl⟩, hpost.result, hpost.rest, hu⟩

/-- Statements are read on from related inputs. -/
theorem gives_on {i i' : Input} {x : Scope.Kind} {s s' u : ReadState} {budget n : Nat}
    {closing : Option Heading} {stops : List String} {a : Option Token} {j : Input}
    (hi : C.inputs i i') (hs : C.rel x s s') (hg : Gives (readEntries setup budget
      (runDirective setup budget) n closing stops i) s a j u) :
    ∃ b j' u', Gives (readEntries setup budget (runDirective setup budget) n closing stops i') s' b j'
      u' ∧ Option.Rel C.tokens a b ∧ C.inputs j j' ∧ C.rel x u u' :=
  gives_of_ends ((follows_readEntries hi).ends s s' hs) hg

end Ends

/-- Texts that begin alike come to the same if they do wherever a read of such a text may have come
to. -/
theorem entries_ends (hr₀ : r₀.Branches) (hregistry : setup.registry = .standard) {name : String}
    {budget n : Nat} {pre : List Token} {line : Int} {x : Scope.Kind} {s : ReadState}
    (hs : C.holds x s) (hg : ∃ a j u, Gives (Watched.readEntries watch setup budget
      (Watched.runDirective watch setup budget) n none [] (r₀.behind pre name line)) s a j u)
    {r q : Tail} (hplaces : ∀ (P : Place) y t line', C.holds y t → P.IsProper →
      (∃ a j u, Gives (P.watched watch setup (r₀.behind [] name line')) t a j u) →
      (C.link y).Ends (C.Leaves (Option.Rel C.tokens)) (exec (P.read setup (r.behind [] name line')) t)
        (exec (P.read setup (q.behind [] name line')) t)) :
    (C.link x).Ends (C.Leaves (Option.Rel C.tokens))
      (exec (readEntries setup budget (runDirective setup budget) n none [] (r.behind pre name line)) s)
      (exec (readEntries setup budget (runDirective setup budget) n none [] (q.behind pre name line))
        s) := by
  obtain ⟨a, j, u, hg⟩ := hg
  cases entries_course hr₀ hregistry budget _ pre (Nat.lt_succ_self _) n none [] line x s 0 _ a j u
      (List.nil_subset _) hs rfl hg with
  | done hpre hts hj gives =>
    obtain ⟨-, us, t, -, -, -, ⟨-, hclosing⟩ | hstop⟩ := hts
    · contradiction
    · obtain ⟨y, l⟩ := t
      cases y <;> simp [Symbol.isDirectiveIn] at hstop
  | within h =>
    obtain ⟨P, ht, hok, -, hproper, -, lifts⟩ := h
    exact lifts r q _ _ rfl rfl (hplaces P _ _ _ ht hproper hok)

end Comparison

end CaseDict
