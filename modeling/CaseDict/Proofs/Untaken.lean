import CaseDict.Proofs.Parting
import CaseDict.Proofs.Relined
/-! # The branch that is not taken

What a conditional brings is what its taken branch brings, and the statements behind it are read on
from there, whatever the other branch holds. -/

namespace CaseDict

open Expansion Statement Entry

variable {setup : Setup} {watch : Watch} {budget n : Nat} {i k : Input} {s u : ReadState}

/-! ### Conditionals as statements -/

theorem gives_argument_word {w : String} {line : Int} {rest : i.Less} {c : List Token}
    (hnext : i.next = .ok (some (⟨.word w, line⟩, rest))) :
    Gives (argument setup budget i) s c k u ↔ c = [⟨.word w, line⟩] ∧ k = rest.input ∧ u = s := by
  have hargument : exec (argument setup budget i) s =
      (.ok ([⟨.word w, line⟩], (rest.onward rest.input.unread).toRest), s) := by
    unfold argument
    rw [exec_expanding]
    unfold readArgument
    rw [exec_bind, exec_lift, Input.expect_ok.mpr hnext]
    rfl
  unfold Gives
  rw [hargument]
  constructor
  · rintro ⟨left, hx, rfl⟩
    cases hx
    exact ⟨rfl, rfl, rfl⟩
  · rintro ⟨rfl, rfl, rfl⟩
    exact ⟨_, rfl, rfl⟩

/-- The directive that opens a conditional, and its condition. -/
def opens (w : String) (line : Int) : List Token :=
  [⟨.directive Directive.ifTrue.name, line⟩, ⟨.word w, line⟩]

/-- The statements of a text that goes on with a conditional. -/
theorem Watched.gives_opens (hregistry : setup.registry = .standard) {w : String} {taken : Bool}
    (hw : Switch.ofWord w = some taken) {closing : Option Heading} {stops : List String}
    (hstops : stops ⊆ branchEnds) {r : Tail} {ts : List Token} {name : String} {line l : Int}
    {a : Option Token} :
    Gives (readEntries watch setup budget (runDirective watch setup budget) n closing stops
        (r.behind (opens w l ++ ts) name line)) s a k u ↔
      watch budget ⟨.directive Directive.ifTrue.name, l⟩ = false ∧ ∃ b, budget = b + 1 ∧
        ∃ es m v es' t, Gives (conditional (readEntries watch setup b (runDirective watch setup b) n
            none) .ifTrue ⟨.directive Directive.ifTrue.name, l⟩ taken
            (r.behind ts name (Token.lineAfter line (opens w l)))) s es m v ∧
          exec (placeAll es) v = (.ok es', t) ∧
          Gives (readEntries watch setup budget (runDirective watch setup budget) n closing stops m) t
            a k u := by
  obtain ⟨rest, hnext, hrest⟩ := r.next_behind ⟨.directive Directive.ifTrue.name, l⟩
    (⟨.word w, l⟩ :: ts) name line
  have hstop : ¬Symbol.isDirectiveIn stops (.directive Directive.ifTrue.name) = true := fun h => by
    have h := Symbol.isDirectiveIn_mono hstops h
    contradiction
  have hdirective {b : Nat} {es : List Entry} {m : Input} {v : ReadState} :
      Gives (runDirective watch setup (b + 1) n ⟨.directive Directive.ifTrue.name, l⟩ rest.input) s es
        m v ↔ Gives (conditional (readEntries watch setup b (runDirective watch setup b) n none)
          .ifTrue ⟨.directive Directive.ifTrue.name, l⟩ taken
          (r.behind ts name (Token.lineAfter line (opens w l)))) s es m v := by
    have hget : setup.registry.get Directive.ifTrue.name l (some rest.input.name) = .ok .ifTrue := by
      rw [hregistry]
      rfl
    have hswitched {j : Input} {v' : ReadState} :
        Gives (switched (readEntries watch setup b (runDirective watch setup b) n none)
          ⟨.directive Directive.ifTrue.name, l⟩ [⟨.word w, l⟩] j) v' es m v ↔
        Gives (conditional (readEntries watch setup b (runDirective watch setup b) n none) .ifTrue
          ⟨.directive Directive.ifTrue.name, l⟩ taken j) v' es m v := by
      unfold switched
      rw [show Switch.ofTokens [⟨.word w, l⟩] = some taken from hw]
    obtain ⟨more, hword, hmore⟩ := r.next_behind ⟨.word w, l⟩ ts name
      (Token.lineAfter line [⟨.directive Directive.ifTrue.name, l⟩])
    rw [Watched.gives_runDirective, hrest]
    constructor
    · rintro ⟨d, hd, hg⟩
      cases (hrest ▸ hget).symm.trans hd
      obtain ⟨c, l', v', hargument, hbranches⟩ := gives_andThen.mp hg
      obtain ⟨rfl, rfl, rfl⟩ := (gives_argument_word hword).mp hargument
      rw [hmore] at hbranches
      exact hswitched.mp hbranches
    · intro hg
      refine ⟨.ifTrue, hrest ▸ hget, gives_andThen.mpr ⟨_, _, s, (gives_argument_word hword).mpr
        ⟨rfl, rfl, rfl⟩, ?_⟩⟩
      rw [hmore]
      exact hswitched.mpr hg
  have hstatement {es : List Entry} {m : Input} {v : ReadState} :
      Gives (readStatement watch setup budget (runDirective watch setup budget) n
        ⟨.directive Directive.ifTrue.name, l⟩ rest.input) s es m v ↔
      watch budget ⟨.directive Directive.ifTrue.name, l⟩ = false ∧ ∃ b, budget = b + 1 ∧
        ∃ es' v', Gives (conditional (readEntries watch setup b (runDirective watch setup b) n
          none) .ifTrue ⟨.directive Directive.ifTrue.name, l⟩ taken
          (r.behind ts name (Token.lineAfter line (opens w l)))) s es' m v' ∧
          exec (placeAll es') v' = (.ok es, v) := by
    rw [Watched.gives_readStatement]
    refine and_congr_right fun _ => ?_
    unfold stated
    rw [gives_andThen]
    simp only [gives_placingAll]
    constructor
    · rintro ⟨es', l', v', hrun, hplace, rfl⟩
      cases budget with
      | zero => exact absurd hrun not_gives_throw
      | succ b =>
        exact ⟨b, rfl, es', v', hdirective.mp hrun, hplace⟩
    · rintro ⟨b, rfl, es', v', hconditional, hplace⟩
      exact ⟨es', m, v', hdirective.mpr hconditional, hplace, rfl⟩
  rw [show r.behind (opens w l ++ ts) name line = r.behind (⟨.directive Directive.ifTrue.name, l⟩ ::
    ⟨.word w, l⟩ :: ts) name line from rfl, Watched.gives_readEntries hnext, if_neg (by simp),
    if_neg (by simp), if_neg hstop]
  simp only [hstatement]
  constructor
  · rintro ⟨es, m, t, ⟨hw, b, hb, es', v, hconditional, hplace⟩, hrest⟩
    exact ⟨hw, b, hb, es', m, v, es, t, hconditional, hplace, hrest⟩
  · rintro ⟨hw, b, hb, es', m, v, es, t, hconditional, hplace, hrest⟩
    exact ⟨es, m, t, ⟨hw, b, hb, es', v, hconditional, hplace⟩, hrest⟩

theorem gives_opens (hregistry : setup.registry = .standard) {w : String} {taken : Bool}
    (hw : Switch.ofWord w = some taken) {closing : Option Heading} {stops : List String}
    (hstops : stops ⊆ branchEnds) {r : Tail} {ts : List Token} {name : String} {line l : Int}
    {a : Option Token} :
    Gives (readEntries setup budget (runDirective setup budget) n closing stops
        (r.behind (opens w l ++ ts) name line)) s a k u ↔
      ∃ b, budget = b + 1 ∧ ∃ es m v es' t,
        Gives (conditional (readEntries setup b (runDirective setup b) n none) .ifTrue
          ⟨.directive Directive.ifTrue.name, l⟩ taken
          (r.behind ts name (Token.lineAfter line (opens w l)))) s es m v ∧
        exec (placeAll es) v = (.ok es', t) ∧
        Gives (readEntries setup budget (runDirective setup budget) n closing stops m) t a k u := by
  simp only [← Watched.readEntries_never, ← Watched.runDirective_never]
  rw [Watched.gives_opens hregistry hw hstops]
  exact and_iff_right rfl

/-! ### Branches that are read as a whole -/

/-- A branch with the tokens `ts` is read as a whole, whatever ends it: it brings `es` and leaves `u`. -/
def Whole (setup : Setup) (budget n : Nat) (ts : List Token) (name : String) (line : Int)
    (s : ReadState) (es : List Entry) (u : ReadState) : Prop :=
  ∃ line', ∀ (r : Tail) e rest p k v, e.symbol.isDirectiveIn branchEnds = true →
    (Gives (branch (readEntries setup budget (runDirective setup budget) n none)
        (r.behind (ts ++ e :: rest) name line)) s p k v ↔
      p = (some e, es) ∧ k = r.behind rest name (Token.lineAfter line' [e]) ∧ v = u)

theorem Comparison.whole (C : Comparison watch setup) (hregistry : setup.registry = .standard)
    {x : Scope.Kind} {ts : List Token} (hts : Token.WellNested ts) (hs : C.holds x s) {r : Tail}
    {e : Token} (he : e.symbol.isDirectiveIn branchEnds = true) {rest : List Token} {name : String}
    {line : Int} {p : Option Token × List Entry} (hg : Gives (branch (Watched.readEntries watch setup
      budget (Watched.runDirective watch setup budget) n none) (r.behind (ts ++ e :: rest) name line)) s
      p k u) : ∃ es u, C.holds x u ∧ Whole setup budget n ts name line s es u := by
  obtain ⟨t, hg, -⟩ := gives_branch.mp hg
  have hcloses : Tail.Closes ⟨e :: rest ++ r.tokens, r.fault⟩ := ⟨e, rest ++ r.tokens, rfl, he⟩
  have hbehind (r : Tail) (e : Token) (rest : List Token) :
      r.behind (ts ++ e :: rest) name line = Tail.behind ⟨e :: rest ++ r.tokens, r.fault⟩ ts name line := by
    simp [Tail.behind]
  rw [hbehind] at hg
  obtain ⟨s', line', hs', hiff⟩ := Comparison.branch_statements hcloses hregistry hts (C.block hs) hg
  obtain ⟨es, below, hscope, hbelow⟩ := C.leave hs'
  refine ⟨es, { s' with scope := below }, hbelow, line', fun r e rest p k v he => ?_⟩
  have hstop {a : Option Token} {t : ReadState} :
      Gives (readEntries setup budget (runDirective setup budget) n none branchEnds
        (r.behind (e :: rest) name line')) s' a k t ↔
        a = some e ∧ k = r.behind rest name (Token.lineAfter line' [e]) ∧ t = s' := by
    have hne : e.symbol ≠ .closer .brace ∧ e.symbol ≠ .terminator := by
      constructor <;> intro h <;> rw [h] at he <;> contradiction
    rw [gives_behind, if_neg hne.1, if_neg hne.2, if_pos he]
  have hleave : Follows.leaveBlock s' = (es, { s' with scope := below }) := by
    rw [Follows.leaveBlock, hscope]
  rw [gives_branch, hbehind]
  simp only [hiff _ none branchEnds _ _ _ (List.Subset.refl _)]
  obtain ⟨ending, es'⟩ := p
  constructor
  · rintro ⟨t, hx, ht⟩
    obtain ⟨rfl, rfl, rfl⟩ := hstop.mp hx
    rw [hleave] at ht
    cases ht
    exact ⟨rfl, rfl, rfl⟩
  · rintro ⟨hp, rfl, rfl⟩
    cases hp
    exact ⟨s', hstop.mpr ⟨rfl, rfl, rfl⟩, hleave.symm⟩

theorem branchEnd_endIf {e : Token} (he : e.symbol = .directive Directive.endIf.name) :
    e.symbol.isDirectiveIn branchEnds = true ∧ isOtherwise e = false := by
  rw [isOtherwise, he]
  exact ⟨rfl, rfl⟩

theorem branchEnd_otherwise {e : Token} (he : e.symbol = .directive Directive.otherwise.name) :
    e.symbol.isDirectiveIn branchEnds = true ∧ isOtherwise e = true := by
  rw [isOtherwise, he]
  exact ⟨rfl, rfl⟩

section Conditionals

variable {ts us : List Token} {name : String} {line : Int} {es es' : List Entry} {v : ReadState}
  {own : Directive} {t e e' : Token} {r : Tail} {rest : List Token}

theorem gives_taken {entries : List String → (i : Input) → ReadM (Taken (Option Token) i)} :
    Gives (conditional entries own t true i) s es k v ↔ ∃ p l u, Gives (branch entries i) s p l u ∧
      Gives (branched own t p l) u es k v := by
  rw [gives_conditional, chosen, if_pos rfl, gives_andThen]

theorem gives_branched_last (he : isOtherwise e = false) :
    Gives (branched own t (some e, es') i) s es k v ↔ es = es' ∧ k = i ∧ v = s := by
  dsimp only [branched]
  rw [he, if_neg Bool.false_ne_true, gives_pure]
  rfl

theorem gives_branched_otherwise (he : e.symbol = .directive Directive.otherwise.name)
    (hus : Token.WellNested us) (he' : e'.symbol = .directive Directive.endIf.name) :
    Gives (branched own t (some e, es') (r.behind (us ++ e' :: rest) name line)) s es k v ↔
      es = es' ∧ k = r.behind rest name (Token.lineAfter line (us ++ [e'])) ∧ v = s := by
  obtain ⟨hends, hnot⟩ := branchEnd_endIf he'
  dsimp only [branched]
  rw [(branchEnd_otherwise he).2, if_pos rfl, gives_andThen]
  simp only [gives_passOver, gives_pure,
    skipped_ended hus (Token.level_succ_of_branchEnd (d := 0) hends).2, hnot]
  constructor
  · rintro ⟨a, l, t, ⟨hskip, rfl⟩, rfl, rfl, rfl⟩
    cases hskip
    exact ⟨rfl, rfl, rfl⟩
  · rintro ⟨rfl, rfl, rfl⟩
    exact ⟨e', _, _, ⟨rfl, rfl⟩, rfl, rfl, rfl⟩

/-- What a conditional brings whose first branch is not taken. -/
theorem gives_untaken {entries : List String → (i : Input) → ReadM (Taken (Option Token) i)}
    (hus : Token.WellNested us) (he : e.symbol.isDirectiveIn branchEnds = true) :
    Gives (conditional entries own t false (r.behind (us ++ e :: rest) name line)) s es k v ↔
      Gives (passedOver entries own t e (r.behind rest name (Token.lineAfter line (us ++ [e])))) s es k
        v := by
  rw [gives_conditional, chosen, if_neg Bool.false_ne_true, gives_andThen]
  simp only [gives_passOver, skipped_ended hus (Token.level_succ_of_branchEnd (d := 0) he).2]
  constructor
  · rintro ⟨a, l, t, ⟨hskip, rfl⟩, hg⟩
    rw [if_neg (by simp)] at hskip
    cases hskip
    exact hg
  · intro hg
    exact ⟨e, _, s, ⟨by simp, rfl⟩, hg⟩

theorem gives_passedOver_otherwise
    {entries : List String → (i : Input) → ReadM (Taken (Option Token) i)}
    (he : e.symbol = .directive Directive.otherwise.name) :
    Gives (passedOver entries own t e i) s es k v ↔
      ∃ e', Gives (branch entries i) s (some e', es) k v ∧ isOtherwise e' = false := by
  unfold passedOver
  rw [(branchEnd_otherwise he).2, if_pos rfl, gives_andThen]
  constructor
  · rintro ⟨⟨_ | e', es'⟩, l, u, hb, hrest⟩
    · exact absurd hrest not_gives_throw
    · obtain ⟨hnot, rfl, rfl, rfl⟩ := Comparison.gives_branchedOtherwise.mp hrest
      exact ⟨e', hb, hnot⟩
  · rintro ⟨e', hb, hnot⟩
    exact ⟨_, _, _, hb, Comparison.gives_branchedOtherwise.mpr ⟨hnot, rfl, rfl, rfl⟩⟩

theorem gives_passedOver_endIf
    {entries : List String → (i : Input) → ReadM (Taken (Option Token) i)}
    (he : e.symbol = .directive Directive.endIf.name) :
    Gives (passedOver entries own t e i) s es k v ↔ es = [] ∧ k = i ∧ v = s := by
  unfold passedOver
  rw [(branchEnd_endIf he).2, if_neg Bool.false_ne_true, gives_pure]
  rfl

end Conditionals

/-! ### Reads on other lines -/

namespace Relined

/-- Reads that differ in the lines of what they read. -/
def comparison (hregistry : setup.registry = .standard) : Comparison .never setup where
  rel := Rel
  holds x s := Rel x s s
  inputs := Inputs
  tokens := Token.Like False
  entry := SameUnlined
  contents := AllSameUnlined
  refl h := h
  statement {x budget n t i s u p} h hr := by
    rw [Watched.runDirective_never, Watched.readStatement_never (Watched.neverBelow _)] at hr
    have hstatement : Follows (link x) (readStatement setup budget (runDirective setup budget) n t i)
        (readStatement setup budget (runDirective setup budget) n t i) (Leaves Any) :=
      readStatement_relined hregistry (runs hregistry _) (below hregistry (runs hregistry _) _) n
        (.refl t) (.refl i)
    have hends := hstatement.ends s s h
    rw [hr] at hends
    cases hends with
    | ok _ hu => exact hu
  reporting h _ := ⟨h.1, h.2.1, trivial⟩
  inner h := ⟨h.1.inner, h.2⟩
  block h := ⟨.block rfl h.1, h.2⟩
  leave {x s} h := by
    obtain ⟨scope, mode, log⟩ := s
    obtain ⟨hscope, hrest⟩ := h
    cases hscope with
    | block hes hbelow => exact ⟨_, _, rfl, hbelow, hrest⟩
  enter h := ⟨.block rfl h.1, h.2⟩
  leaveDictionary h hs := by
    have hes := h.1.entries
    rw [Framing.membersOf_relined] at hes
    exact ⟨⟨hs.1, h.2⟩, hes⟩
  leaveBlock {x t t'} h := by
    obtain ⟨scope, mode, log⟩ := t
    obtain ⟨scope', mode', log'⟩ := t'
    obtain ⟨hscope, hrest⟩ := h
    cases hscope with
    | block hes hbelow => exact ⟨⟨hbelow, hrest⟩, hes⟩
  closes h _ _ _ _ _ hes := relined_iff.mp (.dictionary rfl hes)
  same _ := rfl
  divides h := by rw [isOtherwise, isOtherwise, h.symbol]
  places h := place_relined h
  placesAll h := placeAll_relined h
  goesOn hi budget n closing stops :=
    (below hregistry (runs hregistry budget) _ _ _ (Nat.lt_succ_self _) hi _ n stops closing closing
      (by cases closing <;> constructor; rfl)).mono fun _ _ h => ⟨h.result, h.rest⟩
  passesOver hi own t allow inner := (skipBranch_relined hi).mono fun _ _ _ _ h => ⟨h.result, h.rest⟩

end Relined

/-- The tails differ in their lines only. -/
structure Tail.Like (c c' : Tail) : Prop where
  tokens : Token.AllLike False c.tokens c'.tokens
  fault : c'.fault.isSome = c.fault.isSome

theorem Tail.Like.behind {c c' : Tail} (h : c.Like c') {ts ts' : List Token}
    (hts : Token.AllLike False ts ts') (name : String) (line line' : Int) :
    Relined.Inputs (c.behind ts name line) (c'.behind ts' name line') where
  name := rfl
  tokens := List.rel_append hts h.tokens
  fault := h.fault
  line hf := hf.elim

theorem Tail.Like.symm {c c' : Tail} (h : c.Like c') : c'.Like c :=
  ⟨h.tokens.flip.imp fun _ _ ht => ⟨ht.symbol.symm, fun hf => hf.elim⟩, h.fault.symm⟩

/-! ### One branch for two -/

/-- What one conditional brings, another one brings up to lines. -/
def Brings (setup : Setup) (budget n : Nat) (x : Scope.Kind) (s : ReadState) (taken taken' : Bool)
    (i i' : Input) : Prop :=
  ∀ own t t' es k u, Gives (conditional (readEntries setup budget (runDirective setup budget) n none)
      own t taken i) s es k u →
    ∃ es' k' u', Gives (conditional (readEntries setup budget (runDirective setup budget) n none) own
        t' taken' i') s es' k' u' ∧ AllSameUnlined es es' ∧ Relined.Inputs k k' ∧ Relined.Rel x u u'

section Alternatives

open Relined

variable (hregistry : setup.registry = .standard) {x : Scope.Kind} {other last last' : Token}
  (hother : other.symbol = .directive Directive.otherwise.name)
  (hlast : last.symbol = .directive Directive.endIf.name)
  (hlast' : last'.symbol = .directive Directive.endIf.name) {ts ts' us : List Token}
  {c c' : Tail} {name : String} {line line' : Int} (hs : Rel x s s)

include hregistry hs

/-- A branch that a read comes to the end of is read as a whole. -/
theorem whole_of_gives (hts : Token.WellNested ts) {e : Token}
    (he : e.symbol.isDirectiveIn branchEnds = true) {rest : List Token}
    {p : Option Token × List Entry} (hg : Gives (branch (readEntries setup budget
      (runDirective setup budget) n none) (c.behind (ts ++ e :: rest) name line)) s p k u) :
    ∃ es u, Rel x u u ∧ Whole setup budget n ts name line s es u := by
  rw [← Watched.readEntries_never, ← Watched.runDirective_never] at hg
  exact (comparison hregistry).whole hregistry hts hs he hg

include hlast hlast'

theorem branch_relined (hc : c.Like c') (hts : Token.AllLike False ts ts') {e : Token}
    {es : List Entry} (he : isOtherwise e = false) (hg : Gives (branch (readEntries setup budget
      (runDirective setup budget) n none) (c.behind (ts ++ [last]) name line)) s (some e, es) k u) :
    ∃ e' es' k' u', isOtherwise e' = false ∧ Gives (branch (readEntries setup budget
      (runDirective setup budget) n none) (c'.behind (ts' ++ [last']) name line')) s (some e', es') k'
      u' ∧ AllSameUnlined es es' ∧ Relined.Inputs k k' ∧ Relined.Rel x u u' := by
  have hinputs := hc.behind
    (List.rel_append hts (.cons ⟨hlast'.trans hlast.symm, fun hf => hf.elim⟩ .nil)) name line line'
  obtain ⟨⟨ending, es'⟩, k', u', hb, ⟨hending, hes⟩, hk, hu⟩ := Comparison.gives_of_ends
    ((Comparison.follows_branch (C := comparison hregistry) hinputs).ends s s hs) hg
  cases hending with
  | @some _ e' hlike =>
    refine ⟨e', es', k', u', ?_, hb, hes, hk, hu⟩
    rw [isOtherwise, hlike.symbol]
    exact he

variable (hus : Token.WellNested us)

include hother hus

theorem brings_otherwise (hc : c.Like c') (hts : Token.AllLike False ts ts') :
    Brings setup budget n x s false true (c.behind (us ++ other :: (ts ++ [last])) name line)
      (c'.behind (ts' ++ [last']) name line') := by
  intro own t t' es k u hg
  rw [gives_untaken hus (branchEnd_otherwise hother).1, gives_passedOver_otherwise hother] at hg
  obtain ⟨e, hb, he⟩ := hg
  obtain ⟨e', es', k', u', he', hb', hsame⟩ := branch_relined hregistry hlast hlast' hs hc hts he hb
  exact ⟨es', k', u', gives_taken.mpr ⟨_, _, _, hb', (gives_branched_last he').mpr ⟨rfl, rfl, rfl⟩⟩,
    hsame⟩

theorem brings_taken (hc : c'.Like c) (hts : Token.AllLike False ts' ts)
    (hnested : Token.WellNested ts') :
    Brings setup budget n x s true false (c'.behind (ts' ++ [last']) name line')
      (c.behind (us ++ other :: (ts ++ [last])) name line) := by
  intro own t t' es k u hg
  obtain ⟨p, l, v, hb, hrest⟩ := gives_taken.mp hg
  obtain ⟨hends, hnot⟩ := branchEnd_endIf hlast'
  obtain ⟨es', v', -, line'', hwhole⟩ := whole_of_gives hregistry hs hnested hends hb
  obtain ⟨rfl, rfl, rfl⟩ := (hwhole c' last' [] p l v hends).mp hb
  obtain ⟨rfl, rfl, rfl⟩ := (gives_branched_last hnot).mp hrest
  obtain ⟨e, es, k, u, he, hb', hsame⟩ := branch_relined hregistry hlast' hlast hs hc hts hnot hb
  refine ⟨es, k, u, ?_, hsame⟩
  rw [gives_untaken hus (branchEnd_otherwise hother).1, gives_passedOver_otherwise hother]
  exact ⟨e, hb', he⟩

/-- The branch behind an `#else` is passed over. -/
theorem brings_first (hc : c.Like c') (hnested : Token.WellNested ts) :
    Brings setup budget n x s true true (c.behind (ts ++ other :: (us ++ [last])) name line)
      (c'.behind (ts ++ [last']) name line) := by
  intro own t t' es k u hg
  obtain ⟨p, l, v, hb, hrest⟩ := gives_taken.mp hg
  have hends := (branchEnd_otherwise hother).1
  obtain ⟨es', v', hv, line'', hwhole⟩ := whole_of_gives hregistry hs hnested hends hb
  obtain ⟨rfl, rfl, rfl⟩ := (hwhole c other _ p l v hends).mp hb
  obtain ⟨rfl, rfl, rfl⟩ := (gives_branched_otherwise hother hus hlast).mp hrest
  obtain ⟨hends', hnot⟩ := branchEnd_endIf hlast'
  have hb' := (hwhole c' last' [] _ _ _ hends').mpr ⟨rfl, rfl, rfl⟩
  exact ⟨_, _, _, gives_taken.mpr ⟨_, _, _, hb', (gives_branched_last hnot).mpr ⟨rfl, rfl, rfl⟩⟩,
    rfl, hc.behind .nil _ _ _, hv⟩

theorem brings_only (hc : c'.Like c) (hnested : Token.WellNested ts) :
    Brings setup budget n x s true true (c'.behind (ts ++ [last']) name line)
      (c.behind (ts ++ other :: (us ++ [last])) name line) := by
  intro own t t' es k u hg
  obtain ⟨p, l, v, hb, hrest⟩ := gives_taken.mp hg
  obtain ⟨hends, hnot⟩ := branchEnd_endIf hlast'
  obtain ⟨es', v', hv, line'', hwhole⟩ := whole_of_gives hregistry hs hnested hends hb
  obtain ⟨rfl, rfl, rfl⟩ := (hwhole c' last' [] p l v hends).mp hb
  obtain ⟨rfl, rfl, rfl⟩ := (gives_branched_last hnot).mp hrest
  have hb' := (hwhole c other (us ++ [last]) _ _ _ (branchEnd_otherwise hother).1).mpr ⟨rfl, rfl, rfl⟩
  exact ⟨_, _, _, gives_taken.mpr ⟨_, _, _, hb', (gives_branched_otherwise hother hus hlast).mpr
    ⟨rfl, rfl, rfl⟩⟩, rfl, hc.behind .nil _ _ _, hv⟩

end Alternatives

/-! ### Wherever a conditional stands -/

theorem exec_placeAll_nil (s : ReadState) : exec (placeAll []) s = (.ok [], s) := by
  unfold placeAll
  rw [exec_bind, exec_get]
  dsimp only
  split <;> rfl

/-- Tokens with whole conditionals are passed over as such. -/
theorem gives_skip_whole {own : Directive} {t : Token} {allow : Bool} {inner : Nat} {ts : List Token}
    (hts : Token.WellNested ts) {r : Tail} {name : String} {line : Int} {a : Option Token} :
    Gives (Place.read setup (.skip own t allow inner) (r.behind ts name line)) s a k u ↔
      Gives (Place.read setup (.skip own t allow inner)
        (r.behind [] name (Token.lineAfter line ts))) s a k u := by
  rw [gives_skip, gives_skip, skipped_behind (hts.levels inner)]

section Places

open Relined

variable (hregistry : setup.registry = .standard) {P : Place} (hproper : P.IsProper) {x : Scope.Kind}
  (hs : Rel x s s) {c c' : Tail} (hc : c.Like c') {ts ts' : List Token} (hts : Token.WellNested ts)
  (hts' : Token.WellNested ts') {name : String} {line : Int}

include hregistry hs hc hts hts'

/-- Where a branch is passed over, so is a whole conditional in it. -/
theorem skip_ends {own : Directive} {t : Token} {allow : Bool} {inner : Nat} :
    (link x).Ends ((comparison hregistry).Leaves (Option.Rel (Token.Like False)))
      (exec (Place.read setup (.skip own t allow inner) (c.behind ts name line)) s)
      (exec (Place.read setup (.skip own t allow inner) (c'.behind ts' name line)) s) := by
  refine Comparison.ends_congr (comparison hregistry) (fun _ _ _ => (gives_skip_whole hts).mp)
    (fun _ _ _ => (gives_skip_whole hts').mpr) ?_
  have hpass := (comparison hregistry).passesOver (x := x) (hc.behind .nil name
    (Token.lineAfter line ts) (Token.lineAfter line ts')) own t allow inner
  refine (Follows.bind (.lift hpass) ?_).ends s s hs
  rintro ⟨e, rest⟩ ⟨e', rest'⟩ ⟨he, hrest⟩
  exact .pure ⟨.some he, hrest⟩

omit hs hc hts hts' in
/-- Where statements are read, two conditionals come to the same if they bring the same. -/
theorem entries_ends_of_brings {closing : Option Heading} {stops : List String}
    (hstops : stops ⊆ branchEnds) {w w' : String} {taken taken' : Bool}
    (hw : Switch.ofWord w = some taken) (hw' : Switch.ofWord w' = some taken') {l l' : Int}
    (hbrings : ∀ b, Brings setup b n x s taken taken'
      (c.behind ts name (Token.lineAfter line (opens w l)))
      (c'.behind ts' name (Token.lineAfter line (opens w' l')))) :
    (link x).Ends ((comparison hregistry).Leaves (Option.Rel (Token.Like False)))
      (exec (readEntries setup budget (runDirective setup budget) n closing stops
        (c.behind (opens w l ++ ts) name line)) s)
      (exec (readEntries setup budget (runDirective setup budget) n closing stops
        (c'.behind (opens w' l' ++ ts') name line)) s) := by
  refine Comparison.ends_of_forall (C := comparison hregistry) fun a j u hg => ?_
  obtain ⟨b, rfl, es, m, v, placed, t, hconditional, hplace, hrest⟩ :=
    (gives_opens hregistry hw hstops).mp hg
  obtain ⟨es', m', v', hconditional', hes, hm, hv⟩ := hbrings b _ _ _ es m v hconditional
  have hplaces := (placeAll_relined hes).ends v v' hv
  rw [hplace] at hplaces
  generalize hplace' : exec (placeAll es') v' = q at hplaces
  cases hplaces with
  | @ok _ placed' _ t' _ ht =>
    obtain ⟨a', j', u', hrest', ha, hj, hu⟩ := Comparison.gives_on (C := comparison hregistry) hm ht hrest
    exact ⟨a', j', u', (gives_opens hregistry hw' hstops).mpr
      ⟨b, rfl, es', m', v', placed', t', hconditional', hplace', hrest'⟩, ha, hj, hu⟩

omit hts hts' in
/-- A conditional brings nothing if no branch is taken. -/
theorem entries_ends_of_nothing {closing : Option Heading} {stops : List String}
    (hstops : stops ⊆ branchEnds) {w : String} (hw : Switch.ofWord w = some false) {us : List Token}
    (hus : Token.WellNested us) {last : Token}
    (hlast : last.symbol = .directive Directive.endIf.name) {l : Int} :
    (link x).Ends ((comparison hregistry).Leaves (Option.Rel (Token.Like False)))
      (exec (readEntries setup budget (runDirective setup budget) n closing stops
        (c.behind (opens w l ++ (us ++ [last])) name line)) s)
      (exec (readEntries setup budget (runDirective setup budget) n closing stops
        (c'.behind [] name line)) s) := by
  refine Comparison.ends_of_forall (C := comparison hregistry) fun a j u hg => ?_
  obtain ⟨b, rfl, es, m, v, placed, t, hconditional, hplace, hrest⟩ :=
    (gives_opens hregistry hw hstops).mp hg
  rw [gives_untaken hus (branchEnd_endIf hlast).1, gives_passedOver_endIf hlast] at hconditional
  obtain ⟨rfl, rfl, rfl⟩ := hconditional
  cases (exec_placeAll_nil _).symm.trans hplace
  exact Comparison.gives_on (C := comparison hregistry) (hc.behind .nil name _ line) hs hrest

omit hts hts' in
theorem entries_ends_of_nothing' {closing : Option Heading} {stops : List String}
    (hstops : stops ⊆ branchEnds) {w : String} (hw : Switch.ofWord w = some false) {us : List Token}
    (hus : Token.WellNested us) {last : Token}
    (hlast : last.symbol = .directive Directive.endIf.name) {l : Int} :
    (link x).Ends ((comparison hregistry).Leaves (Option.Rel (Token.Like False)))
      (exec (readEntries setup (budget + 1) (runDirective setup (budget + 1)) n closing stops
        (c.behind [] name line)) s)
      (exec (readEntries setup (budget + 1) (runDirective setup (budget + 1)) n closing stops
        (c'.behind (opens w l ++ (us ++ [last])) name line)) s) := by
  refine Comparison.ends_of_forall (C := comparison hregistry) fun a j u hg => ?_
  obtain ⟨a', j', u', hg', hrelated⟩ := Comparison.gives_on (C := comparison hregistry)
    (hc.behind .nil name line (Token.lineAfter (Token.lineAfter line (opens w l)) (us ++ [last]))) hs hg
  refine ⟨a', j', u', ?_, hrelated⟩
  rw [gives_opens hregistry hw hstops]
  refine ⟨budget, rfl, [], _, s, [], s, ?_, exec_placeAll_nil s, hg'⟩
  rw [gives_untaken hus (branchEnd_endIf hlast).1, gives_passedOver_endIf hlast]
  exact ⟨rfl, rfl, rfl⟩

end Places

end CaseDict
