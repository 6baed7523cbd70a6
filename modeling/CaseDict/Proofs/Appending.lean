import CaseDict.Proofs.Continuing
import CaseDict.Proofs.Joining
import CaseDict.Proofs.Literal
import CaseDict.Proofs.Onward
import CaseDict.Proofs.Placing
/-! # Reading texts behind each other

A text that can be read, a terminator in a line of its own and another text are read as the two
texts are, one after the other into the same dictionary (`Reader.readInto_append`). If the first
text leaves its last statement open (`Reader.LeavesOpen`), the terminator ends it, so that its entry
may end on another line. -/

namespace CaseDict

open Expansion Statement Entry

variable {setup : Setup} {i : Input} {s u v : ReadState} {x : Sequel}

/-- What follows a terminator that stands in the line before a text. -/
def Sequel.ofText (name text : String) (firstLine : Int) : Sequel :=
  let i := Input.ofText name text firstLine
  ⟨firstLine - 1, i.tokens, i.fault⟩

theorem Input.tokens_followedBy {t : Token} {ts : List Token} (h : i.tokens = t :: ts) :
    (i.followedBy x).tokens = t :: (ts ++ ⟨.terminator, x.line⟩ :: x.tokens) := by
  rw [followedBy, h, List.cons_append]

/-- The input of a text that another one follows. -/
theorem Input.ofText_append {name a : String} (h : (ofText name a).fault = none) (b : String) :
    ofText name (a ++ "\n;\n" ++ b) =
      (ofText name a).followedBy (.ofText name b (3 + Lexer.newlines a.toList)) := by
  have hfault : (Lexer.lex 1 a.toList).fault = none := Option.map_eq_none_iff.mp h
  have htext : (a ++ "\n;\n" ++ b).toList = a.toList ++ '\n' :: (';' :: '\n' :: b.toList) := by
    simp
  have hfirst : 1 + Lexer.newlines a.toList + 1 = 2 + Lexer.newlines a.toList := by omega
  have hnext : 2 + Lexer.newlines a.toList + 1 = 3 + Lexer.newlines a.toList := by omega
  have hline : 3 + Lexer.newlines a.toList - 1 = 2 + Lexer.newlines a.toList := by omega
  rw [ofText, htext, Lexer.lex_append hfault, hfirst, Lexer.lex_terminator, hnext]
  rw [followedBy, Sequel.ofText, hline]
  rfl

namespace Reader

/-- The last statement of the input places the entry `e`, and a terminator behind the input would be
read as the end of that statement. -/
inductive LeavesOpen (setup : Setup) (x : Sequel) (e : Entry) : Input → ReadState → Prop
  | last {i : Input} {s u v : ReadState} {p : Taken (List Entry) i}
      {q : Taken (List Entry) (i.followedBy x)} (h : exec (statement setup 0 i) s = (.ok p, u))
      (htokens : p.2.input.tokens = []) (he : e ∈ p.1)
      (hx : exec (statement setup 0 (i.followedBy x)) s = (.ok q, v))
      (hq : q.2.input.tokens = x.tokens) : LeavesOpen setup x e i s
  | terminator {i : Input} {s : ReadState} {t : Token} {rest : i.Less}
      (hnext : i.next = .ok (some (t, rest))) (ht : t.symbol = .terminator)
      (hl : LeavesOpen setup x e rest.input s) : LeavesOpen setup x e i s
  | statement {i : Input} {s u : ReadState} {p : Taken (List Entry) i}
      (h : exec (statement setup 0 i) s = (.ok p, u)) (hl : LeavesOpen setup x e p.2.input u) :
      LeavesOpen setup x e i s

/-- A statement is read behind its first token. -/
theorem exec_statement {t : Token} {ts : List Token} (h : i.tokens = t :: ts) {j : Input}
    (hj : i.after t ts = j) {p : Taken (List Entry) j}
    (hs : exec (readStatement setup (setup.settings.budget 0)
      (runDirective setup (setup.settings.budget 0)) 0 t j) s = (.ok p, u)) :
    ∃ q : Taken (List Entry) i, exec (statement setup 0 i) s = (.ok q, u) ∧ q.1 = p.1 ∧
      q.2.input = p.2.input := by
  subst hj
  have hstatement := (outcome_statement_cons h).trans (outcome_eq_ok.mpr ⟨p.2, hs, rfl⟩)
  obtain ⟨rest, hx, hrest⟩ := outcome_eq_ok.mp hstatement
  exact ⟨(p.1, rest), hx, rfl, hrest⟩

/-! ### The end of the first text -/

end Reader

/-- The states are the same, but an entry under the heading `h` may end on another line. -/
def ReadState.SameButEnd (h : Heading) (u v : ReadState) : Prop :=
  ∃ es es' removed, u.scope = .fresh es [] removed ∧
    v = { u with scope := .fresh es' [] removed } ∧ CaseDict.SameButEnd h es es'

namespace Reader

/-- An entry that ends elsewhere is placed alike. -/
theorem place_elsewhere {e e' : Entry} {es placed : List Entry} {around : List (Frame Entry)}
    {removed : List Removal} (he : e.ButEnd e') (hp : exec (place e) v = (.ok placed, u))
    (hu : u.scope = .fresh es around removed) :
    ∃ placed' w, exec (place e') v = (.ok placed', w) ∧ (w = u ∨ ∃ old ∈ placed, ∃ es',
      w = { u with scope := .fresh es' around removed } ∧ SameButEnd old.head es es') := by
  obtain ⟨scope, mode, log⟩ := v
  rw [exec_place] at hp ⊢
  cases scope with
  | fresh before outer removed' =>
    unfold Scope.place at hp ⊢
    dsimp only at hp ⊢
    rcases hplace : e.place mode before with f | p
    all_goals rw [hplace] at hp; cases hp
    cases hu
    obtain ⟨p', hplace', hevents, hentries⟩ := place_butEnd he hplace
    rw [hplace']
    dsimp only
    rw [hevents]
    refine ⟨p'.placed, _, rfl, hentries.imp (fun hsame => by rw [hsame]) ?_⟩
    rintro ⟨old, hold, hes⟩
    exact ⟨old, hold, _, rfl, hes⟩
  | staged before below =>
    unfold Scope.place at hp
    dsimp only at hp
    rcases hplace : e.place mode before with f | p
    all_goals rw [hplace] at hp; cases hp
    contradiction
  | stored ws d before removed' =>
    rw [Scope.place_stored] at hp
    generalize exec (Workspace.place mode d _) _ = r at hp
    rcases r with ⟨_ | ⟨refs, events⟩, ws'⟩ <;> cases hp
    contradiction

/-- Before the sequel, reading the input leads to where the sequel begins, in the state `u` that the
input alone is read into, or in one that differs in where the entry ends that the input leaves
open. -/
def LeadsOn (setup : Setup) (x : Sequel) (i : Input) (s u : ReadState) : Prop :=
  i.fault = none ∧ ∃ j v, j.Starts x i.name ∧
    readInto setup (i.followedBy x) s = readInto setup j v ∧
      (v = u ∨ ∃ e, LeavesOpen setup x e i s ∧ ReadState.SameButEnd e.head u v)

namespace LeadsOn

variable {t : Token} {ts : List Token}

theorem nil (htokens : i.tokens = []) (hfault : i.fault = none) : LeadsOn setup x i s s := by
  have hx : (i.followedBy x).tokens = ⟨.terminator, x.line⟩ :: x.tokens := by
    rw [Input.followedBy, htokens, List.nil_append]
  refine ⟨hfault, (i.followedBy x).after ⟨.terminator, x.line⟩ x.tokens, s, ⟨rfl, rfl, rfl⟩, ?_,
    .inl rfl⟩
  rw [readInto_cons hx]
  rfl

theorem terminator (htokens : i.tokens = t :: ts) (ht : t.symbol = .terminator)
    (h : LeadsOn setup x (i.after t ts) s u) : LeadsOn setup x i s u := by
  obtain ⟨hfault, j, v, hj, hread, hend⟩ := h
  refine ⟨hfault, j, v, hj, ?_, hend.imp_right ?_⟩
  · have hbrace : t.symbol ≠ .closer .brace := by
      rw [ht]
      decide
    rw [readInto_cons (Input.tokens_followedBy htokens), readBehind, if_neg hbrace, if_pos ht]
    exact hread
  · rintro ⟨e, hl, he⟩
    exact ⟨e, .terminator (Input.next_of_tokens htokens) ht hl, he⟩

/-- The first statement goes on to the rest of the input, or is the last one. -/
theorem statement {es : List Entry} {removed : List Removal} (htokens : i.tokens = t :: ts)
    (hbrace : t.symbol ≠ .closer .brace) (ht : t.symbol ≠ .terminator)
    {p : Taken (List Entry) (i.after t ts)}
    (hs : exec (readStatement setup (setup.settings.budget 0)
      (runDirective setup (setup.settings.budget 0)) 0 t (i.after t ts)) s = (.ok p, v))
    (hread : readInto setup p.2.input v = (.ok (), u)) (hu : u.scope = .fresh es [] removed)
    (h : LeadsOn setup x p.2.input v u) : LeadsOn setup x i s u := by
  have hx := Input.tokens_followedBy (x := x) htokens
  have hafter : (i.followedBy x).after t (ts ++ ⟨.terminator, x.line⟩ :: x.tokens) =
      (i.after t ts).followedBy x := rfl
  have hfirst (hmore : p.2.input.tokens = []) : v = u := by
    rw [readInto_nil hmore] at hread
    exact congrArg Prod.snd hread
  have hrun (n : Nat) (t : Token) (i i' : Input) (hi : i' = i.followedBy x) :
      Follows .leading (runDirective setup (setup.settings.budget 0) n t i)
        (runDirective setup (setup.settings.budget 0) n t i') (Within x) :=
    Sequel.runDirective_followed _ n t hi
  obtain ⟨p', hstatement, hplaced, hinput⟩ := exec_statement htokens rfl hs
  unfold LeadsOn
  rw [readInto_cons hx, hafter, readBehind, if_neg hbrace, if_neg ht]
  dsimp only
  cases Sequel.readStatement_followed 0 t rfl hrun (Sequel.followedBelow hrun _) hs with
  | @within q hx' hq =>
    obtain ⟨hfault, j, w, hj, hread, hend⟩ := h
    rw [hx']
    dsimp only
    rw [hq.rest]
    refine ⟨hq.text.fault.symm.trans hfault, j, w, hq.text.name ▸ hj, hread, hend.imp_right ?_⟩
    rintro ⟨e, hl, he⟩
    refine ⟨e, .statement hstatement ?_, he⟩
    rwa [hinput]
  | @ended q hfault hmore hx' hq =>
    refine ⟨hfault, q.2.input, u, hq, ?_, .inl rfl⟩
    rw [hx', hfirst hmore]
  | elsewhere hfault hmore he hp hx' =>
    obtain rfl := hfirst hmore
    obtain ⟨placed, w, hp', hend⟩ := place_elsewhere he hp hu
    obtain ⟨q, hx', hq⟩ := hx' _ _ hp'
    obtain ⟨q', hstatement', -, hinput'⟩ := exec_statement hx hafter hx'
    refine ⟨hfault, q.2.input, w, hq, by rw [hx'], hend.imp_right ?_⟩
    rintro ⟨old, hold, es', hw, hes⟩
    refine ⟨old, .last hstatement ?_ ?_ hstatement' ?_, es, es', removed, hu, hw, hes⟩
    · rw [hinput, hmore]
    · rwa [hplaced]
    · rw [hinput', hq.tokens]

end LeadsOn

/-- An input that can be read leads on to whatever follows it. -/
theorem leadsOn {es : List Entry} {removed : List Removal}
    (h : readInto setup i s = (.ok (), u)) (hu : u.scope = .fresh es [] removed) :
    LeadsOn setup x i s u := by
  induction hn : i.size using Nat.strongRecOn generalizing i s with
  | ind n ih =>
    cases htokens : i.tokens with
    | nil =>
      rw [readInto_nil htokens] at h
      cases hfault : i.fault with
      | some f =>
        rw [hfault] at h
        cases h
      | none =>
        rw [hfault] at h
        cases h
        exact .nil htokens hfault
    | cons t ts =>
      have hless : (i.after t ts).size < n := hn ▸ Input.size_after_lt htokens
      rw [readInto_cons htokens, readBehind] at h
      split at h
      · cases h
      next hbrace =>
      split at h
      · next ht => exact .terminator htokens ht (ih _ hless h rfl)
      next ht =>
      dsimp only at h
      rcases hs : exec (readStatement setup (setup.settings.budget 0)
        (runDirective setup (setup.settings.budget 0)) 0 t (i.after t ts)) s with ⟨_ | p, v⟩
      all_goals rw [hs] at h
      · cases h
      · have hsize : p.2.input.size < n := Nat.lt_of_le_of_lt p.2.le hless
        exact .statement htokens hbrace ht hs h hu (ih _ hsize h rfl)

/-! ### The second text -/

/-- Where the last token before an input stood does not count, if the input begins in a line. -/
theorem readInto_starts {j : Input} (hname : j.name = i.name) (htokens : j.tokens = i.tokens)
    (hfault : j.fault = i.fault) (hline : ∀ t ∈ i.tokens.head?, 0 ≤ t.line) :
    readInto setup j s = readInto setup i s := by
  obtain ⟨name, ts, fault, line⟩ := i
  obtain ⟨name', ts', fault', line'⟩ := j
  cases hname
  cases htokens
  cases hfault
  cases ts with
  | nil => rw [readInto_nil rfl, readInto_nil rfl]
  | cons t ts =>
    have ht : 0 ≤ t.line := hline t rfl
    rw [readInto_cons rfl, readInto_cons rfl, Input.after, Input.after, if_pos ht, if_pos ht]

variable (setup) in
/-- Dictionaries that differ in where an entry ends are read into alike. -/
theorem readInto_sameButEnd {k : Heading} (i : Input) {s' : ReadState}
    (hs : ((Framing.rooted (SameButEnd.root k)).link Link.same Eq .outermost).rel s s') :
    ∃ r t t', readInto setup i s = (r, t) ∧ readInto setup i s' = (r, t') ∧ (r = .ok () →
      ((Framing.rooted (SameButEnd.root k)).link Link.same Eq .outermost).rel t t') := by
  have hknows : (Vocabulary.freely True).Knows i := ⟨fun _ _ => trivial, fun _ _ => trivial⟩
  have hcourse : Follows ((Framing.rooted (SameButEnd.root k)).link Link.same Eq .outermost)
      (Watched.entries .never setup 0 0 none [] i) (entries setup 0 0 none [] i)
      (Leaves (.freely True) (Same fun _ => True)) :=
    (SameButEnd.courses k setup).entries (.inl rfl) hknows 0 none []
  rw [Watched.entries_never] at hcourse
  have hends := hcourse.ends s s' hs
  unfold readInto
  generalize exec (entries setup 0 0 none [] i) s = p, exec (entries setup 0 0 none [] i) s' = p'
    at hends ⊢
  cases hends with
  | ok _ hs => exact ⟨_, _, _, rfl, rfl, fun _ => hs⟩
  | error => exact ⟨_, _, _, rfl, rfl, fun hr => by contradiction⟩
  | parted hf => contradiction

/-- A read makes a dictionary of its own, without references and directives. -/
theorem scope_readInto (h : readInto setup i (start setup) = (.ok (), s)) :
    ∃ es removed, s.scope = .fresh es [] removed ∧ AllCarry Token.AllLiteral es := by
  have hstart : ((Framing.rooted (SameButEnd.root ⟨"", false, -1, -1⟩)).link Link.same Eq
      .outermost).rel (start setup) (start setup) :=
    ⟨.outermost ⟨[], [], [], [], rfl, rfl, .nil, List.forall_mem_nil _⟩, rfl, rfl⟩
  obtain ⟨r, t, t', ht, -, hrel⟩ := readInto_sameButEnd setup i hstart
  obtain ⟨rfl, rfl⟩ := Prod.mk.inj (h.symm.trans ht)
  obtain ⟨hscope, -⟩ := hrel rfl
  cases hscope with
  | outermost hroot =>
    obtain ⟨es, -, removed, -, hs, -, -, hcarry⟩ := hroot
    exact ⟨es, removed, hs, hcarry⟩

/-- A text, a terminator in a line of its own and another text are read as the texts are one after
the other: either both reads fail in the same way, or the entries are the same, except that the last
entry of the first text may end on another line if the text leaves it open. -/
theorem readInto_append {name a : String}
    (h : readInto setup (.ofText name a) (start setup) = (.ok (), s)) (b : String) :
    ∃ r u v, readInto setup (.ofText name b (3 + Lexer.newlines a.toList)) s = (r, u) ∧
      readInto setup (.ofText name (a ++ "\n;\n" ++ b)) (start setup) = (r, v) ∧
      (r = .ok () → v.mode = u.mode ∧ v.log = u.log ∧
        (v.scope.entries = u.scope.entries ∨
          ∃ e, LeavesOpen setup (.ofText name b (3 + Lexer.newlines a.toList)) e
              (.ofText name a) (start setup) ∧
            SameButEnd e.head u.scope.entries v.scope.entries)) := by
  obtain ⟨es, removed, hs, hcarry⟩ := scope_readInto h
  have hleads : LeadsOn setup (.ofText name b (3 + Lexer.newlines a.toList)) (.ofText name a)
      (start setup) s := leadsOn h hs
  obtain ⟨hfault, j, v, hj, hread, hend⟩ := hleads
  have hline (t : Token)
      (ht : t ∈ (Input.ofText name b (3 + Lexer.newlines a.toList)).tokens.head?) : 0 ≤ t.line := by
    have hle : 3 + Lexer.newlines a.toList ≤ t.line := Lexer.le_line_of_head? ht
    unfold Lexer.newlines at hle
    omega
  have hsecond (v : ReadState) : readInto setup j v =
      readInto setup (.ofText name b (3 + Lexer.newlines a.toList)) v :=
    readInto_starts hj.name hj.tokens hj.fault hline
  rw [Input.ofText_append hfault, hread, hsecond]
  obtain rfl | ⟨e, hopen, before, after, removed', hu, rfl, hes⟩ := hend
  · exact ⟨_, _, _, rfl, rfl, fun _ => ⟨rfl, rfl, .inl rfl⟩⟩
  · obtain ⟨rfl, -, rfl⟩ := Scope.fresh.inj (hs.symm.trans hu)
    have hstates : ((Framing.rooted (SameButEnd.root e.head)).link Link.same Eq .outermost).rel s
        { s with scope := .fresh after [] removed } :=
      ⟨.outermost ⟨es, after, removed, removed, hs, rfl, hes, hcarry⟩, rfl, rfl⟩
    obtain ⟨r, u, v, hu, hv, hrel⟩ :=
      readInto_sameButEnd setup (.ofText name b (3 + Lexer.newlines a.toList)) hstates
    refine ⟨r, u, v, hu, hv, fun hr => ?_⟩
    obtain ⟨hscope, hmode, hlog⟩ := hrel hr
    exact ⟨hmode.symm, hlog.symm, .inr ⟨e, hopen, hscope.entries.1⟩⟩

/-- A setup that merges dictionaries. -/
def mergingSetup : Setup := { bareSetup with settings := { mode := .merge } }

/-- A dictionary, and a copy of it that is merged into it. -/
def merging : Input := .ofTokens "t" [⟨.word "d", 1⟩, ⟨.opener .brace, 1⟩, ⟨.word "x", 1⟩,
  ⟨.number (.int 1), 1⟩, ⟨.terminator, 1⟩, ⟨.closer .brace, 1⟩, ⟨.word "d", 2⟩,
  ⟨.reference "d", 2⟩]

/-- An entry with a value of that dictionary. -/
def copying : Input :=
  .ofTokens "t" [⟨.word "e", 4⟩, ⟨.reference "d/x", 4⟩, ⟨.terminator, 4⟩]

/-- What the dictionary is read into, and entries behind it. -/
def merged (endLine : Int) (more : List Entry) : ReadState :=
  ⟨.fresh (.dictionary ⟨"d", false, 1, endLine⟩
    [.primitive ⟨"x", false, 1, 1⟩ [⟨.number (.int 1), 1⟩]] :: more) [], .merge, []⟩

/-- The dictionary that the last statement of a text is merged into ends on another line if another
text follows. -/
theorem readInto_append_merging : ∃ s u v,
    readInto mergingSetup (.ofText "t" "d\x7bx 1;\x7d\nd $d") (start mergingSetup) = (.ok (), s) ∧
    readInto mergingSetup (.ofText "t" "e $d/x;" 4) s = (.ok (), u) ∧
    readInto mergingSetup (.ofText "t" ("d\x7bx 1;\x7d\nd $d" ++ "\n;\n" ++ "e $d/x;"))
      (start mergingSetup) = (.ok (), v) ∧
    v.scope.entries ≠ u.scope.entries ∧
    ∃ e, LeavesOpen mergingSetup (.ofText "t" "e $d/x;" 4) e (.ofText "t" "d\x7bx 1;\x7d\nd $d")
        (start mergingSetup) ∧ SameButEnd e.head u.scope.entries v.scope.entries := by
  have hfirst : Input.ofText "t" "d\x7bx 1;\x7d\nd $d" = merging := by
    have hlex : Lexer.lex 1 "d\x7bx 1;\x7d\nd $d".toList = ⟨merging.tokens, none⟩ :=
      Lexer.lex_of_lexWithin (n := 15) (by cbv)
    rw [Input.ofText, hlex]
    rfl
  have hsecond : Input.ofText "t" "e $d/x;" 4 = copying := by
    have hlex : Lexer.lex 4 "e $d/x;".toList = ⟨copying.tokens, none⟩ :=
      Lexer.lex_of_lexWithin (n := 15) (by cbv)
    rw [Input.ofText, hlex]
    rfl
  have hlines : 3 + Lexer.newlines "d\x7bx 1;\x7d\nd $d".toList = 4 := by cbv
  have hmerged : readInto mergingSetup merging (start mergingSetup) = (.ok (), merged 2 []) := by
    cbv
  have hparts : readInto mergingSetup copying (merged 2 []) =
      (.ok (), merged 2 [.primitive ⟨"e", false, 4, 4⟩ [⟨.number (.int 1), 1⟩]]) := by cbv
  have hwhole : readInto mergingSetup (merging.followedBy ⟨3, copying.tokens, none⟩)
      (start mergingSetup) =
        (.ok (), merged 3 [.primitive ⟨"e", false, 4, 4⟩ [⟨.number (.int 1), 1⟩]]) := by cbv
  obtain ⟨r, u, v, hu, hv, hsame⟩ := readInto_append (hfirst ▸ hmerged) "e $d/x;"
  have hsequel : Sequel.ofText "t" "e $d/x;" 4 = ⟨3, copying.tokens, none⟩ := by
    rw [Sequel.ofText, hsecond]
    rfl
  have hfault : (Input.ofText "t" "d\x7bx 1;\x7d\nd $d").fault = none := hfirst ▸ rfl
  rw [hlines] at hu hsame
  have hu' := hu
  have hv' := hv
  rw [hsecond, hparts] at hu'
  rw [Input.ofText_append hfault, hlines, hsequel, hfirst, hwhole] at hv'
  cases hu'
  cases hv'
  have hne (more : List Entry) :
      (merged 3 more).scope.entries ≠ (merged 2 more).scope.entries := by
    intro heq
    have hhead := congrArg Entry.head (List.cons.inj heq).1
    cases hhead
  obtain ⟨-, -, heq | hend⟩ := hsame rfl
  · exact absurd heq (hne _)
  · exact ⟨_, _, _, hfirst ▸ hmerged, hu, hv, hne _, hend⟩

end Reader

end CaseDict
