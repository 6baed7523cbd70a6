import CaseDict.Proofs.Abutting
import CaseDict.Proofs.Untaken
/-! # One conditional for another

A text with a conditional is read like the text with the branch that is taken in its place, and like
the text without it if none is (`Reader.ofText_conditional`). The branches are texts that begin and
end with a line break and whose conditionals are well nested. -/

namespace CaseDict

open Expansion Statement Lexer

/-! ### Tails of a text -/

/-- The tail with the tokens before it. -/
def Tail.after (c : Tail) (ts : List Token) : Tail := ⟨ts ++ c.tokens, c.fault⟩

theorem Tail.after_after (c : Tail) (ts us : List Token) :
    (c.after us).after ts = c.after (ts ++ us) := by simp [after]

theorem Tail.behind_after (c : Tail) (ts : List Token) (name : String) (line : Int) :
    (c.after ts).behind [] name line = c.behind ts name line := rfl

/-- What a text brings that stands behind another one. -/
def Tail.ofText (name : String) (line : Int) (cs : List Char) : Tail :=
  ⟨(lex line cs).tokens, (lex line cs).fault.map (·.failure name)⟩

theorem Tail.ofText_joins {cs tail : List Char} (h : Joins cs tail) (name : String) (line : Int) :
    ofText name line (cs ++ tail) =
      (ofText name (line + newlines cs) tail).after (lex line cs).tokens := by
  rw [ofText, h line]
  rfl

theorem Tail.like_ofText (name : String) (line line' : Int) (cs : List Char) :
    (ofText name line cs).Like (ofText name line' cs) where
  tokens := (lex_relined line line' cs).1
  fault := by
    rw [ofText, ofText, Option.isSome_map, Option.isSome_map]
    exact (lex_relined line line' cs).2

/-- The input of a text that joins what is behind it. -/
theorem Input.ofText_joins {A tail : String} (h : Joins A.toList tail.toList) (name : String) :
    Input.ofText name (A ++ tail) =
      (Tail.ofText name (1 + newlines A.toList) tail.toList).behind (lex 1 A.toList).tokens name 0 := by
  have hlex := h 1
  rw [ofText, String.toList_append, hlex]
  rfl

/-- A text can stand between the directives of a conditional. -/
structure Lexer.IsBranch (text : String) : Prop where
  begins : text.toList.head? = some '\n'
  ends : text.toList.getLast? = some '\n'
  lexes : (lex 1 text.toList).fault = none
  nested : Token.WellNested (lex 1 text.toList).tokens

namespace Lexer.IsBranch

variable {X : String} (h : IsBranch X)

include h

theorem joins (tail : List Char) : Joins X.toList tail := joins_of_getLast? h.ends h.lexes tail

theorem joins_before {cs : List Char} {line : Int} (hcs : (lex line cs).fault = none) (tail : List Char) :
    Joins cs (X.toList ++ tail) := by
  obtain ⟨more, hmore⟩ := List.head?_eq_some_iff.mp h.begins
  rw [hmore, List.cons_append]
  exact joins_newline hcs _

theorem wellNested (line : Int) : Token.WellNested (lex line X.toList).tokens := by
  rw [Token.WellNested, (lex_relined 1 line X.toList).1.levels]
  exact h.nested

/-- The tail of a branch behind the text that opens it. -/
theorem ofText {cs : List Char} {opening : List Token} {line : Int}
    (hcs : lex line cs = ⟨opening, none⟩) (hline : newlines cs = 0) (name : String)
    (tail : List Char) : Tail.ofText name line (cs ++ (X.toList ++ tail)) =
      (Tail.ofText name (line + newlines X.toList) tail).after
        (opening ++ (lex line X.toList).tokens) := by
  have hjoins : Joins cs (X.toList ++ tail) :=
    h.joins_before (show (lex line cs).fault = none by rw [hcs]) tail
  rw [Tail.ofText_joins hjoins, hline, Int.add_zero, Tail.ofText_joins (h.joins tail), hcs,
    Tail.after_after]

end Lexer.IsBranch

/-! ### Conditionals in a text -/

theorem lex_if_off (line : Int) : lex line "#if off".toList = ⟨opens "off" line, none⟩ :=
  lex_of_lexWithin (n := 3) rfl

theorem lex_if_on (line : Int) : lex line "#if on".toList = ⟨opens "on" line, none⟩ :=
  lex_of_lexWithin (n := 3) rfl

theorem lex_else (line : Int) :
    lex line "#else".toList = ⟨[⟨.directive Directive.otherwise.name, line⟩], none⟩ :=
  lex_of_lexWithin (n := 2) rfl

theorem lex_endif (line : Int) :
    lex line "#endif".toList = ⟨[⟨.directive Directive.endIf.name, line⟩], none⟩ :=
  lex_of_lexWithin (n := 2) rfl

section Texts

variable {opener X Y C : String} (hX : IsBranch X) (hY : IsBranch Y)
  (hC : Joins "#endif".toList C.toList) {opening : List Token} {line : Int}
  (hopener : lex line opener.toList = ⟨opening, none⟩) (hline : newlines opener.toList = 0)
  (name : String)

theorem newlines_endif : newlines "#endif".toList = 0 := rfl

include hX hC hopener hline

/-- The tail of a conditional with one branch. -/
theorem Tail.ofText_branch : Tail.ofText name line (opener ++ X ++ "#endif" ++ C).toList =
    (Tail.ofText name (line + newlines X.toList) C.toList).after
      (opening ++ ((lex line X.toList).tokens ++
        [⟨.directive Directive.endIf.name, line + newlines X.toList⟩])) := by
  rw [String.toList_append, String.toList_append, String.toList_append, List.append_assoc,
    List.append_assoc, hX.ofText hopener hline, Tail.ofText_joins hC, lex_endif, newlines_endif,
    Int.add_zero, Tail.after_after, List.append_assoc]

include hY

/-- The tail of a conditional with two branches. -/
theorem Tail.ofText_branches :
    Tail.ofText name line (opener ++ X ++ "#else" ++ Y ++ "#endif" ++ C).toList =
      (Tail.ofText name (line + newlines X.toList + newlines Y.toList) C.toList).after
        (opening ++ ((lex line X.toList).tokens ++
          ⟨.directive Directive.otherwise.name, line + newlines X.toList⟩ ::
            ((lex (line + newlines X.toList) Y.toList).tokens ++
              [⟨.directive Directive.endIf.name, line + newlines X.toList + newlines Y.toList⟩]))) := by
  have hinner := Tail.ofText_branch hY hC (lex_else (line + newlines X.toList)) rfl name
  have hassoc : opener ++ X ++ "#else" ++ Y ++ "#endif" ++ C =
      opener ++ (X ++ ("#else" ++ Y ++ "#endif" ++ C)) := by
    simp only [String.append_assoc]
  rw [hassoc, String.toList_append, String.toList_append, hX.ofText hopener hline, hinner,
    Tail.after_after, List.append_assoc]
  rfl

end Texts

/-! ### Conditionals as a whole are well nested -/

theorem wellNested_branch {w : String} {line : Int} {ts : List Token} (hts : Token.WellNested ts)
    {last : Token} (hlast : last.symbol = .directive Directive.endIf.name) :
    Token.WellNested (opens w line ++ (ts ++ [last])) := by
  have hends : Token.level 1 last = some 0 := by
    rw [Token.level, hlast]
    rfl
  rw [Token.WellNested, Token.levels_append, show Token.levels 0 (opens w line) = some 1 from rfl,
    Option.bind_some, Token.levels_append, hts.levels, Option.bind_some, Token.levels_cons, hends]
  rfl

theorem wellNested_branches {w : String} {line : Int} {ts us : List Token}
    (hts : Token.WellNested ts) {other : Token}
    (hother : other.symbol = .directive Directive.otherwise.name) (hus : Token.WellNested us)
    {last : Token} (hlast : last.symbol = .directive Directive.endIf.name) :
    Token.WellNested (opens w line ++ (ts ++ other :: (us ++ [last]))) := by
  have hdivides : Token.level 1 other = some 1 := by
    rw [Token.level, hother, isOtherwise, hother]
    rfl
  have hends : Token.level 1 last = some 0 := by
    rw [Token.level, hlast]
    rfl
  rw [Token.WellNested, Token.levels_append, show Token.levels 0 (opens w line) = some 1 from rfl,
    Option.bind_some, Token.levels_append, hts.levels, Option.bind_some, Token.levels_cons, hdivides,
    Option.bind_some, Token.levels_append, hus.levels, Option.bind_some, Token.levels_cons, hends]
  rfl

/-! ### Conditionals wherever they stand -/

section Places

open Relined

variable {setup : Setup} (hregistry : setup.registry = .standard) {P : Place} (hproper : P.IsProper)
  {x : Scope.Kind} {s : ReadState} (hs : Rel x s s) {c c' : Tail} (hc : c.Like c') {name : String}
  {line : Int}

include hregistry hproper hs hc

/-- Two conditionals come to the same, wherever they stand, if they bring the same. -/
theorem ends_of_brings {w w' : String} {taken taken' : Bool} (hw : Switch.ofWord w = some taken)
    (hw' : Switch.ofWord w' = some taken') {l l' : Int} {ts ts' : List Token}
    (hts : Token.WellNested (opens w l ++ ts)) (hts' : Token.WellNested (opens w' l' ++ ts'))
    (hbrings : ∀ b n, Brings setup b n x s taken taken'
      (c.behind ts name (Token.lineAfter line (opens w l)))
      (c'.behind ts' name (Token.lineAfter line (opens w' l')))) :
    (link x).Ends ((comparison hregistry).Leaves (Option.Rel (Token.Like False)))
      (exec (P.read setup (c.behind (opens w l ++ ts) name line)) s)
      (exec (P.read setup (c'.behind (opens w' l' ++ ts') name line)) s) := by
  cases P with
  | entries budget nesting closing stops =>
    exact entries_ends_of_brings hregistry hproper hw hw' fun b => hbrings b nesting
  | skip own t allow inner => exact skip_ends hregistry hs hc hts hts'

variable {us : List Token} (hus : Token.WellNested us) {last : Token}
  (hlast : last.symbol = .directive Directive.endIf.name) {l : Int}

include hus hlast

/-- A conditional without a branch that is taken comes to nothing, wherever it stands. -/
theorem ends_of_nothing {w : String} (hw : Switch.ofWord w = some false) :
    (link x).Ends ((comparison hregistry).Leaves (Option.Rel (Token.Like False)))
      (exec (P.read setup (c.behind (opens w l ++ (us ++ [last])) name line)) s)
      (exec (P.read setup (c'.behind [] name line)) s) := by
  cases P with
  | entries budget nesting closing stops =>
    exact entries_ends_of_nothing hregistry hs hc hproper hw hus hlast
  | skip own t allow inner =>
    exact skip_ends hregistry hs hc (wellNested_branch hus hlast) (Token.levels_nil 0)

/-- It may stand wherever another conditional may. -/
theorem ends_of_nothing' {w : String} (hw : Switch.ofWord w = some false) {c₀ : Tail} {t : Token}
    (ht : t.symbol = .directive Directive.ifTrue.name)
    (hok : ∃ a j u, Gives (P.read setup ((c₀.after [t]).behind [] name line)) s a j u) :
    (link x).Ends ((comparison hregistry).Leaves (Option.Rel (Token.Like False)))
      (exec (P.read setup (c.behind [] name line)) s)
      (exec (P.read setup (c'.behind (opens w l ++ (us ++ [last])) name line)) s) := by
  cases P with
  | skip own t allow inner =>
    exact skip_ends hregistry hs hc (Token.levels_nil 0) (wellNested_branch hus hlast)
  | entries budget nesting closing stops =>
    obtain ⟨a, j, u, hok⟩ := hok
    cases budget with
    | succ budget => exact entries_ends_of_nothing' hregistry hs hc hproper hw hus hlast
    | zero =>
      obtain ⟨y, tline⟩ := t
      obtain rfl : y = _ := ht
      have hstop : ¬Symbol.isDirectiveIn stops (.directive Directive.ifTrue.name) = true := fun h => by
        have h := Symbol.isDirectiveIn_mono hproper h
        contradiction
      rw [Tail.behind_after] at hok
      dsimp only [Place.read] at hok
      rw [gives_behind, if_neg (by simp), if_neg (by simp), if_neg hstop] at hok
      obtain ⟨es, m, v, hstatement, -⟩ := hok
      obtain ⟨es', m', v', hrun, -⟩ := gives_andThen.mp (gives_readStatement.mp hstatement)
      exact absurd hrun not_gives_throw

end Places

/-! ### Whole reads -/

namespace Reader

variable {setup : Setup} {i i' : Input}

/-- What the one read gives the other one gives too, up to lines. -/
def Yields (p q : Except Failure Entry × List Event) : Prop :=
  ∀ e, p.1 = .ok e → ∃ e', q.1 = .ok e' ∧ Entry.SameUnlined e e'

/-- Both reads fail, or both give the same up to lines. -/
def Alike (p q : Except Failure Entry × List Event) : Prop :=
  p.1.toOption.map Entry.unlined = q.1.toOption.map Entry.unlined

theorem Alike.of_yields {p q : Except Failure Entry × List Event} (h : Yields p q)
    (h' : Yields q p) : Alike p q := by
  unfold Alike
  cases hp : p.1 with
  | ok e =>
    obtain ⟨e', hq, he⟩ := h e hp
    rw [hq]
    exact congrArg some he.symm
  | error f =>
    cases hq : q.1 with
    | ok e =>
      obtain ⟨e', hp', -⟩ := h' e hq
      rw [hp] at hp'
      contradiction
    | error f' => rfl

theorem read_eq_ok {e : Entry} : (read setup i).1 = .ok e ↔
    ∃ a j u, Gives (readEntries setup (setup.settings.budget 0)
      (runDirective setup (setup.settings.budget 0)) 0 none [] i) (start setup) a j u ∧
      e = .dictionary ⟨i.name, false, 1, j.line⟩ u.scope.entries := by
  have hread : (read setup i).1 = (exec (readEntries setup (setup.settings.budget 0)
      (runDirective setup (setup.settings.budget 0)) 0 none [] i) (start setup)).1.map fun p =>
        .dictionary ⟨i.name, false, 1, p.2.input.line⟩ (exec (readEntries setup
          (setup.settings.budget 0) (runDirective setup (setup.settings.budget 0)) 0 none [] i)
            (start setup)).2.scope.entries := rfl
  unfold Gives
  rw [hread]
  rcases exec (readEntries setup (setup.settings.budget 0)
    (runDirective setup (setup.settings.budget 0)) 0 none [] i) (start setup) with
      ⟨f | ⟨a, rest⟩, u⟩
  · simp [Except.map]
  · constructor
    · intro h
      cases h
      exact ⟨a, _, u, ⟨rest, rfl, rfl⟩, rfl⟩
    · rintro ⟨a, j, u, ⟨rest, hx, rfl⟩, rfl⟩
      cases hx
      rfl

/-- Texts that begin alike yield the same if they do wherever a read of such a text may come to. -/
theorem yields_of_ends (hregistry : setup.registry = .standard) {r₀ r r' : Tail}
    (hr₀ : r₀.Branches) {pre : List Token} {name : String} {e₀ : Entry}
    (hguide : (read setup (r₀.behind pre name 0)).1 = .ok e₀)
    (hplaces : ∀ (P : Place) x s line, Relined.Rel x s s → P.IsProper →
      (∃ a j u, Gives (P.read setup (r₀.behind [] name line)) s a j u) →
      (Relined.link x).Ends ((Relined.comparison hregistry).Leaves (Option.Rel (Token.Like False)))
        (exec (P.read setup (r.behind [] name line)) s)
        (exec (P.read setup (r'.behind [] name line)) s)) :
    Yields (read setup (r.behind pre name 0)) (read setup (r'.behind pre name 0)) := by
  intro e he
  obtain ⟨a₀, j₀, u₀, hg₀, -⟩ := read_eq_ok.mp hguide
  obtain ⟨a, j, u, hg, rfl⟩ := read_eq_ok.mp he
  have hstart : Relined.Rel .dictionary (start setup) (start setup) :=
    ⟨.dictionary rfl .nil, rfl, trivial⟩
  have hends := (Relined.comparison hregistry).entries_ends hr₀ hregistry (x := .dictionary) hstart
    (r := r) (q := r') ⟨a₀, j₀, u₀, by
      rw [Watched.readEntries_never, Watched.runDirective_never]
      exact hg₀⟩ fun P y t line hy hproper hok => by
        refine hplaces P y t line hy hproper ?_
        cases P with
        | skip => exact hok
        | entries =>
          dsimp only [Place.watched] at hok
          rwa [Watched.readEntries_never, Watched.runDirective_never] at hok
  obtain ⟨a', j', u', hg', -, -, hu⟩ := Comparison.gives_of_ends hends hg
  refine ⟨_, read_eq_ok.mpr ⟨a', j', u', hg', rfl⟩, ?_⟩
  have hes := hu.1.entries
  rw [Framing.membersOf_relined] at hes
  exact Entry.relined_iff.mp (.dictionary rfl hes)

theorem branches_opens (c : Tail) (w : String) (line : Int) (ts : List Token) :
    (c.after (opens w line ++ ts)).Branches :=
  ⟨⟨.directive Directive.ifTrue.name, line⟩, ⟨.word w, line⟩ :: (ts ++ c.tokens), rfl, rfl⟩

section Conditionals

variable (hregistry : setup.registry = .standard) {c c' : Tail} (hc : c.Like c') {pre : List Token}
  {name : String}

include hregistry hc

theorem yields_of_brings {w w' : String} {taken taken' : Bool} (hw : Switch.ofWord w = some taken)
    (hw' : Switch.ofWord w' = some taken') {l l' : Int} {ts ts' : List Token}
    (hts : Token.WellNested (opens w l ++ ts)) (hts' : Token.WellNested (opens w' l' ++ ts'))
    (hbrings : ∀ b n x s line, Relined.Rel x s s → Brings setup b n x s taken taken'
      (c.behind ts name (Token.lineAfter line (opens w l)))
      (c'.behind ts' name (Token.lineAfter line (opens w' l')))) :
    Yields (read setup ((c.after (opens w l ++ ts)).behind pre name 0))
      (read setup ((c'.after (opens w' l' ++ ts')).behind pre name 0)) := by
  intro e he
  refine yields_of_ends hregistry (branches_opens c w l ts) he (fun P x s line hs hproper _ => ?_) e he
  exact ends_of_brings hregistry hproper hs hc hw hw' hts hts' fun b n => hbrings b n x s line hs

variable {us : List Token} (hus : Token.WellNested us) {last : Token}
  (hlast : last.symbol = .directive Directive.endIf.name) {l : Int}

include hus hlast

theorem yields_nothing :
    Yields (read setup ((c.after (opens "off" l ++ (us ++ [last]))).behind pre name 0))
      (read setup (c'.behind pre name 0)) := by
  intro e he
  refine yields_of_ends hregistry (branches_opens c "off" l _) he
    (fun P x s line hs hproper _ => ?_) e he
  exact ends_of_nothing hregistry hproper hs hc hus hlast rfl

theorem yields_untaken {c₀ : Tail} {t : Token}
    (ht : t.symbol = .directive Directive.ifTrue.name) {e₀ : Entry}
    (hguide : (read setup ((c₀.after [t]).behind pre name 0)).1 = .ok e₀) :
    Yields (read setup (c.behind pre name 0))
      (read setup ((c'.after (opens "off" l ++ (us ++ [last]))).behind pre name 0)) := by
  have hbranches : (c₀.after [t]).Branches := by
    refine ⟨t, c₀.tokens, rfl, ?_⟩
    rw [Token.isBranching, ht]
    rfl
  exact yields_of_ends hregistry hbranches hguide fun P x s line hs hproper hok =>
    ends_of_nothing' hregistry hproper hs hc hus hlast rfl ht hok

end Conditionals

/-! ### Conditionals in a text -/

/-- A conditional may stand behind the text, within the limit of expansion, if anything may: some
text that begins so and goes on with `#if` is read, unless none that begins so is. -/
def Admits (setup : Setup) (name before : String) : Prop :=
  (∃ rest e, (ofText setup (before ++ rest) name).1 = .ok e) →
    ∃ rest e, (ofText setup (before ++ ("#if " ++ rest)) name).1 = .ok e

section Texts

variable {A X Y C : String} (hregistry : setup.registry = .standard)
  (hA : ∀ tail, Joins A.toList ('#' :: tail)) (hC : Joins "#endif".toList C.toList)
  (hX : IsBranch X) (hY : IsBranch Y) (name : String)

theorem ofText_joins {tail : String} (h : Joins A.toList tail.toList) : ofText setup (A ++ tail) name =
    read setup ((Tail.ofText name (1 + newlines A.toList) tail.toList).behind
      (lex 1 A.toList).tokens name 0) := by
  rw [ofText, Input.ofText_joins h]

include hA hC hX

variable (setup) in
theorem ofText_branch {opener : String} (hhash : opener.toList.head? = some '#')
    {opening : List Token} (hopener : lex (1 + newlines A.toList) opener.toList = ⟨opening, none⟩)
    (hline : newlines opener.toList = 0) : ∃ line,
    ofText setup (A ++ (opener ++ X ++ "#endif" ++ C)) name =
      read setup (((Tail.ofText name line C.toList).after
        (opening ++ ((lex (1 + newlines A.toList) X.toList).tokens ++
          [⟨.directive Directive.endIf.name, line⟩]))).behind (lex 1 A.toList).tokens name 0) := by
  refine ⟨1 + newlines A.toList + newlines X.toList, ?_⟩
  obtain ⟨cs, hcs⟩ := List.head?_eq_some_iff.mp hhash
  rw [ofText_joins name, Tail.ofText_branch hX hC hopener hline]
  rw [String.toList_append, String.toList_append, String.toList_append, hcs]
  exact hA _

include hY

variable (setup) in
theorem ofText_branches {opener : String} (hhash : opener.toList.head? = some '#')
    {opening : List Token} (hopener : lex (1 + newlines A.toList) opener.toList = ⟨opening, none⟩)
    (hline : newlines opener.toList = 0) : ∃ middle line,
    ofText setup (A ++ (opener ++ X ++ "#else" ++ Y ++ "#endif" ++ C)) name =
      read setup (((Tail.ofText name line C.toList).after
        (opening ++ ((lex (1 + newlines A.toList) X.toList).tokens ++
          ⟨.directive Directive.otherwise.name, middle⟩ :: ((lex middle Y.toList).tokens ++
            [⟨.directive Directive.endIf.name, line⟩])))).behind (lex 1 A.toList).tokens name 0) := by
  refine ⟨1 + newlines A.toList + newlines X.toList,
    1 + newlines A.toList + newlines X.toList + newlines Y.toList, ?_⟩
  obtain ⟨cs, hcs⟩ := List.head?_eq_some_iff.mp hhash
  rw [ofText_joins name, Tail.ofText_branches hX hY hC hopener hline]
  rw [String.toList_append, String.toList_append, String.toList_append, String.toList_append,
    String.toList_append, hcs]
  exact hA _

include hregistry

/-- The branch behind `#else` stands for the conditional. -/
theorem alike_otherwise :
    Alike (ofText setup (A ++ ("#if off" ++ X ++ "#else" ++ Y ++ "#endif" ++ C)) name)
      (ofText setup (A ++ ("#if on" ++ Y ++ "#endif" ++ C)) name) := by
  obtain ⟨m, l, h⟩ := ofText_branches setup hA hC hX hY name (by decide) (lex_if_off _) rfl
  obtain ⟨l', h'⟩ := ofText_branch setup hA hC hY name (by decide) (lex_if_on _) rfl
  rw [h, h']
  have hnested := hX.wellNested (1 + newlines A.toList)
  have hnested' := hY.wellNested (1 + newlines A.toList)
  refine .of_yields ?_ ?_
  · exact yields_of_brings hregistry (Tail.like_ofText name l l' C.toList) rfl rfl
      (wellNested_branches hnested rfl (hY.wellNested m) rfl) (wellNested_branch hnested' rfl)
      fun b n x s line hs => brings_otherwise hregistry rfl rfl rfl hs hnested
        (Tail.like_ofText name l l' C.toList) (lex_relined m _ Y.toList).1
  · exact yields_of_brings hregistry (Tail.like_ofText name l' l C.toList) rfl rfl
      (wellNested_branch hnested' rfl) (wellNested_branches hnested rfl (hY.wellNested m) rfl)
      fun b n x s line hs => brings_taken hregistry rfl rfl rfl hs hnested
        (Tail.like_ofText name l' l C.toList) (lex_relined _ m Y.toList).1 hnested'

/-- The branch before `#else` stands for the conditional. -/
theorem alike_first :
    Alike (ofText setup (A ++ ("#if on" ++ X ++ "#else" ++ Y ++ "#endif" ++ C)) name)
      (ofText setup (A ++ ("#if on" ++ X ++ "#endif" ++ C)) name) := by
  obtain ⟨m, l, h⟩ := ofText_branches setup hA hC hX hY name (by decide) (lex_if_on _) rfl
  obtain ⟨l', h'⟩ := ofText_branch setup hA hC hX name (by decide) (lex_if_on _) rfl
  rw [h, h']
  have hnested := hX.wellNested (1 + newlines A.toList)
  refine .of_yields ?_ ?_
  · exact yields_of_brings hregistry (Tail.like_ofText name l l' C.toList) rfl rfl
      (wellNested_branches hnested rfl (hY.wellNested m) rfl) (wellNested_branch hnested rfl)
      fun b n x s line hs => brings_first hregistry rfl rfl rfl hs (hY.wellNested m)
        (Tail.like_ofText name l l' C.toList) hnested
  · exact yields_of_brings hregistry (Tail.like_ofText name l' l C.toList) rfl rfl
      (wellNested_branch hnested rfl) (wellNested_branches hnested rfl (hY.wellNested m) rfl)
      fun b n x s line hs => brings_only hregistry rfl rfl rfl hs (hY.wellNested m)
        (Tail.like_ofText name l' l C.toList) hnested

omit hY in
/-- A conditional without a branch that is taken might as well not be there. -/
theorem alike_nothing (hjoins : Joins A.toList C.toList) (hadmits : Admits setup name A) :
    Alike (ofText setup (A ++ ("#if off" ++ X ++ "#endif" ++ C)) name)
      (ofText setup (A ++ C) name) := by
  obtain ⟨l, h⟩ := ofText_branch setup hA hC hX name (by decide) (lex_if_off _) rfl
  have hnested := hX.wellNested (1 + newlines A.toList)
  have hlike (l l' : Int) := Tail.like_ofText name l l' C.toList
  rw [h, ofText_joins name hjoins]
  refine .of_yields ?_ fun e he => ?_
  · exact yields_nothing hregistry (hlike l _) hnested rfl
  · have hread : ∃ rest e, (ofText setup (A ++ rest) name).1 = .ok e :=
      ⟨C, e, by rw [ofText_joins name hjoins, he]⟩
    obtain ⟨rest, e₀, hguide⟩ := hadmits hread
    have hstep : nextStep (1 + newlines A.toList) ("#if " ++ rest).toList = .ok (some
        ⟨⟨.directive Directive.ifTrue.name, 1 + newlines A.toList⟩, 1 + newlines A.toList,
          ' ' :: rest.toList⟩) := by
      rw [String.toList_append]
      rfl
    have htail : Tail.ofText name (1 + newlines A.toList) ("#if " ++ rest).toList =
        (Tail.ofText name (1 + newlines A.toList) (' ' :: rest.toList)).after
          [⟨.directive Directive.ifTrue.name, 1 + newlines A.toList⟩] := by
      rw [Tail.ofText, lex_of_nextStep hstep]
      rfl
    rw [ofText_joins name, htail] at hguide
    · exact yields_untaken hregistry (hlike _ l) hnested rfl rfl hguide e he
    · rw [String.toList_append]
      exact hA _

/-- **The branch that is not taken has no influence.** Wherever a conditional stands in a text, it is
read as the conditional of the branch that is taken, whatever the other branch holds, and if no branch
is taken the text is read as the one without it. -/
theorem ofText_conditional :
    Alike (ofText setup (A ++ ("#if off" ++ X ++ "#else" ++ Y ++ "#endif" ++ C)) name)
        (ofText setup (A ++ ("#if on" ++ Y ++ "#endif" ++ C)) name) ∧
      Alike (ofText setup (A ++ ("#if on" ++ X ++ "#else" ++ Y ++ "#endif" ++ C)) name)
        (ofText setup (A ++ ("#if on" ++ X ++ "#endif" ++ C)) name) ∧
      (Joins A.toList C.toList → Admits setup name A →
        Alike (ofText setup (A ++ ("#if off" ++ X ++ "#endif" ++ C)) name)
          (ofText setup (A ++ C) name)) :=
  ⟨alike_otherwise hregistry hA hC hX hY name, alike_first hregistry hA hC hX hY name,
    alike_nothing hregistry hA hC hX name⟩

end Texts

/-- A branch that could not be read. -/
def illegible : String := "\n) $missing #unknown;\n#if on\n#endif\n"

theorem isBranch_illegible : IsBranch illegible := by
  have hlex : lex 1 illegible.toList = ⟨[⟨.closer .round, 2⟩, ⟨.reference "missing", 2⟩,
      ⟨.directive "unknown", 2⟩, ⟨.terminator, 2⟩, ⟨.directive "if", 3⟩, ⟨.word "on", 3⟩,
      ⟨.directive "endif", 4⟩], none⟩ := lex_of_lexWithin (n := 8) rfl
  exact ⟨by decide, by decide, by rw [hlex], by rw [hlex]; rfl⟩

theorem isBranch_entry : IsBranch "\nb 2;\n" := by
  have hlex : lex 1 "\nb 2;\n".toList =
      ⟨[⟨.word "b", 2⟩, ⟨.number (.int 2), 2⟩, ⟨.terminator, 2⟩], none⟩ :=
    lex_of_lexWithin (n := 4) rfl
  exact ⟨by decide, by decide, by rw [hlex], by rw [hlex]; rfl⟩

theorem ofText_eq_read {text : String} {n : Nat} (ts : List Token)
    (h : lexWithin n 1 text.toList = some ⟨ts, none⟩) (setup : Setup) (name : String) :
    ofText setup text name = read setup (.ofTokens name ts) := by
  rw [ofText, Input.ofText, lex_of_lexWithin h]
  rfl

theorem admits_inDictionary : Admits bareSetup "t" "d \x7b\n" := by
  refine fun _ => ⟨"on\n#endif\n\x7d\n", .dictionary ⟨"t", false, 1, 4⟩ [.dictionary ⟨"d", false, 1, 4⟩ []], ?_⟩
  rw [ofText_eq_read (n := 7) [⟨.word "d", 1⟩, ⟨.opener .brace, 1⟩, ⟨.directive "if", 2⟩,
    ⟨.word "on", 2⟩, ⟨.directive "endif", 3⟩, ⟨.closer .brace, 4⟩] rfl]
  cbv

theorem ofText_inDictionary :
    (ofText bareSetup ("d \x7b\n" ++ ("#if on" ++ "\nb 2;\n" ++ "#endif" ++ "\n\x7d\n")) "t").1 =
      .ok (.dictionary ⟨"t", false, 1, 5⟩ [.dictionary ⟨"d", false, 1, 5⟩
        [.primitive ⟨"b", false, 3, 3⟩ [⟨.number (.int 2), 3⟩]]]) := by
  rw [ofText_eq_read (n := 10) [⟨.word "d", 1⟩, ⟨.opener .brace, 1⟩, ⟨.directive "if", 2⟩,
    ⟨.word "on", 2⟩, ⟨.word "b", 3⟩, ⟨.number (.int 2), 3⟩, ⟨.terminator, 3⟩, ⟨.directive "endif", 4⟩,
    ⟨.closer .brace, 5⟩] rfl]
  cbv

/-- A conditional in a dictionary, with a branch that could not be read. -/
theorem ofText_conditional_illegible :
    (ofText bareSetup ("d \x7b\n" ++ ("#if off" ++ illegible ++ "#else" ++ "\nb 2;\n" ++ "#endif" ++
        "\n\x7d\n")) "t").1.isOk = true ∧
      Alike (ofText bareSetup ("d \x7b\n" ++ ("#if on" ++ illegible ++ "#else" ++ "\nb 2;\n" ++ "#endif" ++
          "\n\x7d\n")) "t")
        (ofText bareSetup ("d \x7b\n" ++ ("#if on" ++ illegible ++ "#endif" ++ "\n\x7d\n")) "t") ∧
      Alike (ofText bareSetup ("d \x7b\n" ++ ("#if off" ++ illegible ++ "#endif" ++ "\n\x7d\n")) "t")
        (ofText bareSetup ("d \x7b\n" ++ "\n\x7d\n") "t") := by
  have hlex : (lex 1 "d \x7b\n".toList).fault = none := by
    have hd : lex 1 "d \x7b\n".toList = ⟨[⟨.word "d", 1⟩, ⟨.opener .brace, 1⟩], none⟩ :=
      lex_of_lexWithin (n := 3) rfl
    rw [hd]
  have hA tail : Joins "d \x7b\n".toList tail := joins_of_getLast? (by decide) hlex tail
  have hC : Joins "#endif".toList "\n\x7d\n".toList := by
    have hlex : (lex 1 "#endif".toList).fault = none := by rw [lex_endif]
    exact joins_newline hlex ['\x7d', '\n']
  obtain ⟨hotherwise, hfirst, hnothing⟩ := ofText_conditional (show bareSetup.registry = .standard from rfl)
    (fun tail => hA _) hC isBranch_illegible isBranch_entry "t"
  refine ⟨?_, hfirst, hnothing (hA _) admits_inDictionary⟩
  rw [Alike, ofText_inDictionary] at hotherwise
  generalize ofText bareSetup _ _ = p at hotherwise ⊢
  obtain ⟨f | e, log⟩ := p
  · contradiction
  · rfl

end Reader

end CaseDict
