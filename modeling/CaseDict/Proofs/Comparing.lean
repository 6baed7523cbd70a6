import CaseDict.Proofs.EnvironmentValues
import CaseDict.Proofs.Giving
/-! # Comparing tokens

A conditional compares the texts of two arguments. Texts tell symbols apart: what stands literally
in a text or is computed is read back from its own text, so that two such symbols with one text are
the same (`Symbol.text_inj`). Whatever was read before, the arguments of a conditional are made of
such symbols, and the branch that is taken tells whether they are the same, one by one
(`ifEqual_identity`). -/

namespace CaseDict

open Expansion Lexer Statement

/-! ### Texts tell symbols apart -/

namespace Symbol

/-- Numbers that are doubles are finite. -/
def IsFinite (s : Symbol) : Prop := ∀ x, s = .number (.float x) → x.isFinite = true

/-- A literal symbol is read back from its text. -/
theorem nextStep_self {s : Symbol} (hs : s.Legible) (hm : s.isMacro = false) (hf : s.IsFinite)
    (line : Int) :
    ∃ line', nextStep line s.text.toList = .ok (some ⟨⟨s, line⟩, line', []⟩) := by
  rw [← List.append_nil s.text.toList]
  cases s with
  | word w => exact ⟨line, nextStep_isWord hs (by simp [Ends])⟩
  | quoted s => exact ⟨_, nextStep_quoted s []⟩
  | number n => exact ⟨line, nextStep_number hs (fun x hx => hf x (hx ▸ rfl)) (by simp [Stops])⟩
  | opener b => exact ⟨line, by cases b <;> exact nextStep_single rfl⟩
  | closer b => exact ⟨line, by cases b <;> exact nextStep_single rfl⟩
  | comma => exact ⟨line, nextStep_single rfl⟩
  | terminator => exact ⟨line, nextStep_single rfl⟩
  | reference => contradiction
  | directive => contradiction

theorem text_inj {s s' : Symbol} (hs : s.Legible ∧ s.isMacro = false) (hf : s.IsFinite)
    (hs' : s'.Legible ∧ s'.isMacro = false) (hf' : s'.IsFinite) : s.text = s'.text ↔ s = s' := by
  refine ⟨fun h => ?_, fun h => h ▸ rfl⟩
  obtain ⟨line, hread⟩ := nextStep_self hs.1 hs.2 hf 1
  obtain ⟨line', hread'⟩ := nextStep_self hs'.1 hs'.2 hf' 1
  rw [h, hread'] at hread
  simp only [Except.ok.injEq, Option.some.injEq, Step.mk.injEq, Token.mk.injEq] at hread
  exact hread.1.1.symm

/-- The symbol stands in a text, or a computation gives it. -/
inductive Arises : Symbol → Prop
  | lexed {line : Int} {cs : List Char} {t : Token} (ht : t ∈ (lex line cs).tokens) :
      Arises t.symbol
  | calculated {source : String} {s : Symbol} (h : Calc.calculate source = .ok s) : Arises s

/-- Symbols that arise are legible, unless a number is too long. -/
theorem Arises.legible {s : Symbol} (h : s.Arises) (hn : ∀ n, s = .number n → n.writable = true) :
    s.Legible := by
  cases h with
  | lexed ht => exact legible_lex _ _ _ ht
  | calculated hcalc =>
    rcases Calc.calculate_eq_ok hcalc with rfl | rfl | ⟨n, rfl⟩
    · exact isWord_switch (.inl rfl)
    · exact isWord_switch (.inr rfl)
    · exact hn n rfl

/-- A literal symbol that arises and is no number out of bounds. -/
structure Definite (s : Symbol) : Prop where
  arises : s.Arises
  literal : s.isMacro = false
  finite : s.IsFinite
  writable : ∀ n, s = .number n → n.writable = true

/-- A symbol that is legible comes from its own text, if from nowhere else. -/
theorem Definite.of_legible {s : Symbol} (hs : s.Legible) (hm : s.isMacro = false)
    (hf : s.IsFinite) : s.Definite := by
  obtain ⟨line', hread⟩ := nextStep_self hs hm hf 1
  have hmem : ⟨s, 1⟩ ∈ (lex 1 s.text.toList).tokens := by
    rw [lex_of_nextStep hread]
    exact List.mem_cons_self
  exact ⟨.lexed hmem, hm, hf, fun n hn => by rw [hn] at hs; exact hs⟩

theorem Definite.text_inj {s s' : Symbol} (h : s.Definite) (h' : s'.Definite) :
    s.text = s'.text ↔ s = s' :=
  Symbol.text_inj ⟨h.arises.legible h.writable, h.literal⟩ h.finite
    ⟨h'.arises.legible h'.writable, h'.literal⟩ h'.finite

end Symbol

namespace Token

theorem map_text_inj {ts us : List Token}
    (hts : ∀ t ∈ ts, (t.symbol.Legible ∧ t.symbol.isMacro = false) ∧ t.symbol.IsFinite)
    (hus : ∀ u ∈ us, (u.symbol.Legible ∧ u.symbol.isMacro = false) ∧ u.symbol.IsFinite) :
    ts.map text = us.map text ↔ ts.map symbol = us.map symbol := by
  induction ts generalizing us with
  | nil => cases us <;> simp
  | cons t ts ih =>
    cases us with
    | nil => simp
    | cons u us =>
      obtain ⟨⟨ht, hf⟩, hts⟩ := List.forall_mem_cons.mp hts
      obtain ⟨⟨hu, hf'⟩, hus⟩ := List.forall_mem_cons.mp hus
      simp only [List.map_cons, List.cons.injEq, ih hts hus]
      exact and_congr_left fun _ => Symbol.text_inj ht hf hu hf'

end Token

/-! ### What is read before -/

/-- The rest of a text is left to read. -/
def Input.IsLexed (i : Input) : Prop := ∃ line cs, i.tokens <:+ (lex line cs).tokens

theorem Input.IsLexed.legible {i : Input} (hi : i.IsLexed) : ∀ t ∈ i.tokens, t.symbol.Legible := by
  obtain ⟨line, cs, hsuffix⟩ := hi
  exact fun t ht => legible_lex line cs t (hsuffix.subset ht)

/-- The states that reads come to before a statement: a read begins, a statement of a text has been
read, a dictionary begins, or the text of a branch or of a file does, whatever was reported. -/
inductive Setup.Reaches (setup : Setup) : ReadState → Prop
  | start : setup.Reaches (Reader.start setup)
  | statement {budget n : Nat} {t : Token} {i j : Input} {es : List Entry} {s u : ReadState}
      (hs : setup.Reaches s) (hi : i.IsLexed) (ht : t.symbol.Legible)
      (h : Gives (readStatement setup budget (runDirective setup budget) n t i) s es j u) :
      setup.Reaches u
  | dictionary {s : ReadState} (hs : setup.Reaches s) :
      setup.Reaches { s with scope := s.scope.inner }
  | block {s : ReadState} (hs : setup.Reaches s) (log : List Event) :
      setup.Reaches ⟨.staged [] s.scope, s.mode, log⟩

/-- The values in a scope are legible and literal. -/
abbrev Scope.Spelt (scope : Scope) : Prop := scope.Carries Vocabulary.spelt.stands

namespace Statement

variable {setup : Setup} {budget n : Nat} {t : Token} {i j : Input} {s u : ReadState}

theorem spelt_of_gives {α : Type} {m m' : ReadM (Taken α i)} {post : α → α → Prop} {a : α}
    (hm : Follows (Link.same.sharing Vocabulary.spelt.stands Eq) m m' (Leaves .spelt post))
    (hs : s.scope.Spelt) (h : Gives m' s a j u) :
    (∃ b, post b a) ∧ (∀ t ∈ j.tokens, t.symbol.Legible) ∧ u.scope.Spelt := by
  obtain ⟨rest, hx, rfl⟩ := h
  have hends := hm.ends s s ⟨rfl, hs, rfl, rfl⟩
  rw [hx] at hends
  generalize exec m s = p at hends
  cases hends with
  | ok hleaves hrel =>
    obtain ⟨hpost, hrest, hknown⟩ := hleaves
    obtain ⟨hscope, hcarries, -⟩ := hrel
    exact ⟨⟨_, hpost⟩, fun t ht => hknown.tokens t (hrest ▸ ht), hscope ▸ hcarries⟩
  | parted hf => contradiction

/-- The argument of a directive is legible and literal. -/
theorem spelt_argument {left : List Token} (hs : s.scope.Spelt)
    (hi : ∀ t ∈ i.tokens, t.symbol.Legible) (h : Gives (argument setup budget i) s left j u) :
    (∀ t ∈ left, t.symbol.Legible ∧ t.symbol.isMacro = false) ∧
      (∀ t ∈ j.tokens, t.symbol.Legible) ∧ u.scope.Spelt := by
  have C := Reader.courses_spelt setup
  have hfollows : Follows (Link.same.sharing Vocabulary.spelt.stands Eq) (argument setup budget i)
      (argument setup budget i)
      (Leaves .spelt (Same fun ts => ∀ t ∈ ts, Vocabulary.spelt.fit t)) := by
    refine C.expanding (x := ()) fun frames frames' ha => ?_
    obtain ⟨href, hin⟩ := Follows.expansion ⟨setup, frames⟩ ⟨setup, frames'⟩ C.setups ha (.inl rfl)
    exact Follows.readArgument href hin C.setups.shared ⟨hi, fun _ _ => trivial⟩
  obtain ⟨⟨_, rfl, hleft⟩, hrest⟩ := spelt_of_gives hfollows hs h
  exact ⟨hleft, hrest⟩

theorem spelt_statement {es : List Entry} (hs : s.scope.Spelt) (hi : i.IsLexed)
    (ht : t.symbol.Legible)
    (h : Gives (readStatement setup budget (runDirective setup budget) n t i) s es j u) :
    u.scope.Spelt := by
  have C := Reader.courses_spelt setup
  have hrun : Courses.Runs _ _ _ _ _ budget _ (runDirective setup budget) := C.runs (.inl rfl)
  have hfollows := C.readStatement (x := ()) (n := n) (.inl rfl) hrun ht
    ⟨hi.legible, fun _ _ => trivial⟩ (C.below (.inl rfl) hrun _)
  exact (spelt_of_gives hfollows hs h).2.2

theorem spelt_of_reaches (h : setup.Reaches s) : s.scope.Spelt := by
  induction h with
  | start => exact Scope.carries_nil
  | statement hs hi ht h ih => exact spelt_statement ih hi ht h
  | dictionary hs ih => exact ih.inner
  | block hs log ih => exact ⟨List.forall_mem_nil _, ih⟩

/-- Where both arguments are read the conditional is, with their comparison. -/
theorem outcome_ifEqual {left right : List Token} {k : Input} {v : ReadState}
    (hd : setup.registry.get t.symbol.value t.line (some i.name) = .ok .ifEqual)
    (hleft : Gives (argument setup budget i) s left j u)
    (hright : Gives (argument setup budget j) u right k v) :
    outcome (runDirective setup (budget + 1) n t i) s =
      outcome (conditional (readEntries setup budget (runDirective setup budget) n none) .ifEqual t
        (left.map Token.text == right.map Token.text) k) v := by
  obtain ⟨first, hx, rfl⟩ := hleft
  obtain ⟨second, hy, rfl⟩ := hright
  unfold argument at hx hy
  rw [runDirective, outcome, exec_bind, exec_lift, hd]
  dsimp only
  rw [exec_bind, hx]
  dsimp only
  rw [exec_bind, hy]
  dsimp only
  rw [exec_bind, outcome]
  dsimp only [Input.Rest.onward]
  rcases exec (conditional (readEntries setup budget (runDirective setup budget) n none) .ifEqual t
    (left.map Token.text == right.map Token.text) second.input) v with ⟨_ | ⟨es, more⟩, _⟩ <;> rfl

/-- Of definite symbols no two have the same text. Wherever a conditional comes in a read, its first
branch is taken exactly if its arguments are the same symbols in the same order, provided that no
double among them is infinite or not a number. -/
theorem ifEqual_identity :
    (∀ s s' : Symbol, s.Definite → s'.Definite → (s.text = s'.text ↔ s = s')) ∧
    ∀ (setup : Setup) (budget n : Nat) (t : Token) (i j k : Input) (s u v : ReadState)
      (left right : List Token), setup.Reaches s → i.IsLexed →
      setup.registry.get t.symbol.value t.line (some i.name) = .ok .ifEqual →
      Gives (argument setup budget i) s left j u → Gives (argument setup budget j) u right k v →
      (∀ t ∈ left ++ right, t.symbol.IsFinite) →
        outcome (runDirective setup (budget + 1) n t i) s =
          outcome (conditional (readEntries setup budget (runDirective setup budget) n none)
            .ifEqual t (decide (left.map Token.symbol = right.map Token.symbol)) k) v := by
  refine ⟨fun s s' h h' => h.text_inj h', ?_⟩
  intro setup budget n t i j k s u v left right hs hi hd hleft hright hfinite
  obtain ⟨hl, hj, hu⟩ := spelt_argument (spelt_of_reaches hs) hi.legible hleft
  obtain ⟨hr, -, -⟩ := spelt_argument hu hj hright
  obtain ⟨hfl, hfr⟩ := List.forall_mem_append.mp hfinite
  have hsame := Token.map_text_inj (fun t ht => ⟨hl t ht, hfl t ht⟩) fun t ht => ⟨hr t ht, hfr t ht⟩
  have htaken : (left.map Token.text == right.map Token.text) =
      decide (left.map Token.symbol = right.map Token.symbol) :=
    Bool.eq_iff_iff.mpr (by simp [hsame])
  rw [outcome_ifEqual hd hleft hright, htaken]

/-- What follows the directive in `#ifeq 1 "1" #endif`. -/
def oneText : Input :=
  .ofTokens "t" [⟨.number (.int 1), 1⟩, ⟨.quoted "1", 1⟩, ⟨.directive "endif", 1⟩]

/-- Zero and negative zero have different texts, and a number is not the quoted text of it. -/
theorem ifEqual_distinguishes :
    (Symbol.number (.float 0.0)).text ≠ (Symbol.number (.float (-0.0))).text ∧
    outcome (runDirective bareSetup 2 0 ⟨.directive "ifeq", 1⟩ oneText) (Reader.start bareSetup) =
      outcome (conditional (readEntries bareSetup 1 (runDirective bareSetup 1) 0 none) .ifEqual
        ⟨.directive "ifeq", 1⟩ false ⟨"t", [⟨.directive "endif", 1⟩], none, 1⟩)
        (Reader.start bareSetup) := by
  constructor
  · have hzero (x : Float) (hx : x.isFinite = true) : (Symbol.number (.float x)).Definite :=
      .of_legible rfl rfl fun y hy => by cases hy; exact hx
    rw [Ne, ifEqual_identity.1 _ _ (hzero 0.0 (by decide)) (hzero (-0.0) (by decide))]
    decide
  · have hlexed : oneText.IsLexed := ⟨1, "1 \"1\" #endif".toList, [], by cbv⟩
    exact ifEqual_identity.2 bareSetup 1 0 ⟨.directive "ifeq", 1⟩ oneText _ _ _ _ _
      [⟨.number (.int 1), 1⟩] [⟨.quoted "1", 1⟩] .start hlexed rfl ⟨_, rfl, rfl⟩ ⟨_, rfl, rfl⟩
      (by simp [Symbol.IsFinite])

end Statement

end CaseDict
