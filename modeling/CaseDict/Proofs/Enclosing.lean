import CaseDict.Proofs.Acceptance
import CaseDict.Proofs.Alternatives
import CaseDict.Proofs.Appending
import CaseDict.Proofs.Inward
import CaseDict.Proofs.Limits
import CaseDict.Proofs.Relined
/-! # Reading a text inside a dictionary

A text that pulls in nothing that refers outwards is read into the same entries, up to their lines,
when it stands in the braces of a dictionary (`Reader.ofText_enclosed`). Inside an empty dictionary
its names denote the same, and its statements are read one level of nesting further in
(`Framing.courses_enclosed`); the terminator behind it ends a statement that it leaves open, and
the brace ends the dictionary (`Reader.leadsUpTo`). -/

namespace CaseDict

open Expansion Statement Entry

variable {setup : Setup} {i : Input}

namespace Lookup

/-- A dictionary further out that is empty does not count for names that lead inwards. -/
theorem scopedEntry_enclosed {ε : Type} (view : Inspection ε) (frames : List (Frame ε))
    {name : String} (h : leadsOutwards name = false) :
    scopedEntry view (frames ++ [⟨[], false⟩]) name = scopedEntry view frames name := by
  rw [scopedEntry_inward view _ h, scopedEntry_inward view _ h]
  have hfind (key : String) : findOutward view key (frames ++ [⟨[], false⟩]) =
      findOutward view key frames := by
    rw [findOutward, findOutward, List.findSome?_append]
    exact Option.or_none
  simp only [hfind]

end Lookup

/-- The setup with room for one more level of nesting. -/
def Setup.roomier (s : Setup) : Setup :=
  s.limited s.settings.maxExpansion (s.settings.maxNesting + 1)

/-- A read that begins in a dictionary of its own, and one that begins inside of one that is empty:
both make the same entries. -/
def Framing.enclosed : Framing.Placing where
  outermost s s' := ∃ es removed removed', s = .fresh es [] removed ∧
    s' = .fresh es [⟨[], false⟩] removed' ∧ AllCarry Token.AllLiteral es
  members := SameCarry Token.AllLiteral
  contents := SameCarry Token.AllLiteral
  around fs fs' := fs' = fs ++ [⟨[], false⟩] ∧ ∀ f ∈ fs, AllCarry Token.AllLiteral f.entries
  nil := .nil _
  filter := @SameCarry.filter _
  made := by
    rintro _ _ ⟨es, removed, removed', rfl, rfl, -⟩
    have hany (es : List Entry) : AllCarry (fun _ => True) es := fun _ _ _ _ => trivial
    exact ⟨⟨hany es, fun f _ => hany f.entries⟩, hany es, fun f _ => hany f.entries⟩
  frames := by
    rintro _ _ ⟨es, removed, removed', rfl, rfl, hes⟩
    exact ⟨rfl, List.forall_mem_singleton.mpr hes⟩
  cons := by
    rintro fs _ es _ ⟨rfl, hfs⟩ ⟨rfl, hes⟩ transparent
    exact ⟨rfl, List.forall_mem_cons.mpr ⟨hes, hfs⟩⟩
  removeThrough := by
    rintro _ _ ⟨es, removed, removed', rfl, rfl, hes⟩ what
    exact ⟨_, _, _, rfl, rfl, forall_mem_applyAll hes what⟩
  entries := by
    rintro _ _ ⟨es, removed, removed', rfl, rfl, hes⟩
    exact ⟨rfl, hes⟩
  refill := by
    rintro _ _ es _ ⟨-, removed, removed', rfl, rfl, -⟩ ⟨rfl, hes⟩
    exact ⟨es, removed, removed', rfl, rfl, hes⟩

theorem Framing.membersOf_enclosed (x : Scope.Kind) :
    Framing.enclosed.membersOf x = SameCarry Token.AllLiteral := by
  cases x <;> rfl

/-- Until the first read fails, a read takes the same course inside of an empty dictionary, one
level of nesting further in, if no name leads outwards. -/
theorem Framing.courses_enclosed (setup : Setup) :
    Courses (.upTo fun _ => True) (Framing.enclosed.link (.upTo fun _ => True) (Same fun _ => True))
      .inward .never (SameCarry Token.AllLiteral) (setup.withholding refersOutwards)
      (setup.roomier.withholding refersOutwards) 1 := by
  have hplace (mode : InputMode) (es : List Entry) (e : Entry) (p : Placed) (_ : True)
      (hes : AllCarry Token.AllLiteral es) (he : e.Carries Token.AllLiteral)
      (hp : e.place mode es = .ok p) : AllCarry Token.AllLiteral p.entries :=
    carries_hereditary.place hes he hp
  have hlog (log log' events : List Event) (h : log = log') : log ++ events = log' ++ events := by
    rw [h]
  refine Framing.courses_known (fun _ => trivial) rfl (fun _ _ _ => trivial)
    (fun log log' event => hlog log log' [event]) Link.stops_never (fun _ _ _ _ _ => trivial) rfl
    (fun _ h => h) (fun _ _ => Vocabulary.knows_of_readText setup)
    (fun _ _ _ _ => inward_of_environmentTokens setup) rfl rfl (.inl rfl)
    (.inr ⟨Int.le_refl _, fun _ => trivial, rfl⟩) ?_ ?_ (fun x e e' h => ?_) (fun x es es' h => ?_)
    fun _ _ _ _ _ _ => ⟨⟨rfl, trivial⟩, fun _ => ⟨rfl, trivial⟩⟩
  · rintro fs _ ⟨rfl, hfs⟩ name hname
    have hfind : Option.Rel (Vocabulary.inward.Finds (SameCarry Token.AllLiteral))
        (Surroundings.find? ⟨fs, []⟩ name) (Surroundings.find? ⟨fs, []⟩ name) :=
      Follows.rel_find? (fun _ => ⟨rfl, fun _ => trivial⟩) hfs rfl name
    rw [Lookup.scopedEntry_enclosed _ _ hname]
    exact .inl hfind
  · rintro es _ ⟨rfl, -⟩
    rfl
  · obtain ⟨rfl, he⟩ := h.same
    exact placing_same (fun _ => trivial) hlog (membersOf_enclosed x) hplace he
  · obtain ⟨rfl, hes⟩ := h
    exact placingAll_same (fun _ => trivial) hlog (membersOf_enclosed x) hplace hes

namespace Reader

/-- The state of a read that begins inside of an empty dictionary. -/
def startInside (setup : Setup) : ReadState := ⟨.fresh [] [⟨[], false⟩], setup.settings.mode, []⟩

/-- What is read while nothing leads outwards is read in the same way inside of an empty
dictionary. -/
theorem exec_inside (hi : ∀ t ∈ i.tokens, t.Inward) {p : Taken (Option Token) i} {u : ReadState}
    (h : exec (entries (setup.withholding refersOutwards) 0 0 none [] i) (start setup) =
      (.ok p, u)) :
    ∃ q v removed,
      exec (entries setup.roomier 0 1 none [] i) (startInside setup.roomier) = (.ok q, v) ∧
        v.scope = .fresh u.scope.entries [⟨[], false⟩] removed := by
  have hcourse : Follows (Framing.enclosed.link (.upTo fun _ => True) (Same fun _ => True)
        .outermost)
      (Watched.entries .never (setup.withholding refersOutwards) 0 0 none [] i)
      (entries (setup.roomier.withholding refersOutwards) 0 1 none [] i)
      (Leaves .inward (Same fun _ => True)) :=
    (Framing.courses_enclosed setup).entries (.inl rfl) (Vocabulary.knows_inward hi) 0 none []
  have hends := hcourse.ends (start setup) (startInside setup.roomier)
    ⟨.outermost ⟨[], [], [], rfl, rfl, List.forall_mem_nil _⟩, ⟨rfl, trivial⟩, rfl⟩
  rw [Watched.entries_never, h] at hends
  generalize hq : exec (entries (setup.roomier.withholding refersOutwards) 0 1 none [] i)
    (startInside setup.roomier) = q at hends
  cases hends with
  | ok hab hrel =>
    obtain ⟨hscope, -⟩ := hrel
    cases hscope with
    | outermost hscope =>
      obtain ⟨es, removed, removed', hu, hv, -⟩ := hscope
      have hcarries : (startInside setup.roomier).scope.Carries Token.AllLiteral :=
        ⟨List.forall_mem_nil _, List.forall_mem_singleton.mpr (List.forall_mem_nil _)⟩
      exact ⟨_, _, removed', (exec_withholding hcarries hq).1, by rw [hu]; exact hv⟩

/-- What is read inside of an empty dictionary is read in the same way on other lines. -/
theorem exec_inside_relined (hregistry : setup.registry = .standard) {i' : Input}
    (hi : i.Like False i') {n : Nat} {es : List Entry} {removed : List Removal}
    {s u : ReadState} (hs : s.scope = .fresh [] [⟨[], false⟩]) {p : Taken (Option Token) i}
    (h : exec (entries setup 0 n none [] i) s = (.ok p, u))
    (hu : u.scope = .fresh es [⟨[], false⟩] removed) :
    ∃ q v es' around' removed', exec (entries setup 0 n none [] i') s = (.ok q, v) ∧
      v.scope = .fresh es' around' removed' ∧ AllSameUnlined es es' := by
  have hrel : Relined.Rel .dictionary s s := by
    refine ⟨?_, rfl, trivial⟩
    rw [hs]
    exact .dictionary rfl (.cons ⟨rfl, rfl⟩ .nil)
  have hcourse : Follows (Relined.link .dictionary) (entries setup 0 n none [] i)
      (entries setup 0 n none [] i') (Relined.Leaves (Option.Rel (Token.Like False))) :=
    Relined.below hregistry (Relined.runs hregistry _) _ i i' (Nat.lt_succ_self _) hi .dictionary n
      [] none none .none
  have hends := hcourse.ends s s hrel
  rw [h] at hends
  generalize exec (entries setup 0 n none [] i') s = q at hends
  obtain ⟨_, v⟩ := q
  cases hends with
  | ok hab hrel =>
    obtain ⟨hscope, -⟩ := hrel
    rw [hu] at hscope
    generalize hv : v.scope = scope at hscope
    cases hscope with
    | dictionary hes _ => exact ⟨_, _, _, _, _, rfl, hv, hes⟩

/-! ### Before a sequel -/

end Reader

/-- The states are the same up to the lines of the entries of a dictionary. -/
def ReadState.SameUnlined (u v : ReadState) : Prop :=
  ∃ es es' around removed, u.scope = .fresh es around removed ∧
    v = { u with scope := .fresh es' around removed } ∧ AllSameUnlined es es'

theorem ReadState.SameUnlined.refl {u : ReadState} {es : List Entry} {around : List (Frame Entry)}
    {removed : List Removal} (hu : u.scope = .fresh es around removed) : u.SameUnlined u :=
  ⟨es, es, around, removed, hu, by rw [← hu], rfl⟩

theorem SameButEnd.unlined {h : Heading} {es es' : List Entry} (hes : SameButEnd h es es') :
    AllSameUnlined es es' := by
  refine allSameUnlined_iff.mpr (hes.forall₂.imp ?_)
  rintro e _ ⟨endLine, rfl⟩
  cases e <;> rfl

namespace Reader

section Before

variable {x : Sequel} {budget n : Nat} {closing : Option Heading} {s u v : ReadState}

variable (setup x budget n closing) in
/-- Before the sequel, the statements of the input lead on to where the sequel begins, in the state
`u` that the input alone is read into, up to lines. -/
def LeadsUpTo (i : Input) (s u : ReadState) : Prop :=
  i.fault = none ∧ ∃ j v, j.Starts x i.name ∧
    outcome (readEntries setup budget (runDirective setup budget) n closing [] (i.followedBy x)) s =
      outcome (readEntries setup budget (runDirective setup budget) n closing [] j) v ∧
    u.SameUnlined v

/-- Where the input has ended, nothing more is read. -/
theorem outcome_end {r : Option Token × Input} (htokens : i.tokens = [])
    (h : outcome (readEntries setup budget (runDirective setup budget) n closing [] i) s =
      (.ok r, u)) : u = s := by
  obtain ⟨name, ts, fault, line⟩ := i
  cases htokens
  rw [readEntries.eq_def] at h
  rcases fault with _ | f
  · rcases closing with _ | k
    · cases h
      rfl
    · cases h
  · cases h

/-- A statement begins with the next token. -/
theorem outcome_statement {t : Token} {ts : List Token} (h : i.tokens = t :: ts)
    (hbrace : t.symbol ≠ .closer .brace) (ht : t.symbol ≠ .terminator) :
    outcome (readEntries setup budget (runDirective setup budget) n closing [] i) s =
      match outcome (readStatement setup budget (runDirective setup budget) n t (i.after t ts)) s with
      | (.ok (_, j), s) =>
        outcome (readEntries setup budget (runDirective setup budget) n closing [] j) s
      | (.error f, s) => (.error f, s) := by
  obtain ⟨name, _, fault, line⟩ := i
  cases h
  exact readEntries_statement hbrace ht (by cases t.symbol <;> rfl)

namespace LeadsUpTo

theorem nil (htokens : i.tokens = []) (hfault : i.fault = none) (hs : s.SameUnlined s) :
    LeadsUpTo setup x budget n closing i s s := by
  obtain ⟨name, _, fault, line⟩ := i
  cases htokens
  exact ⟨hfault, ⟨name, x.tokens, x.fault, _⟩, s, ⟨rfl, rfl, rfl⟩, readEntries_terminator, hs⟩

/-- The first statement goes on to the rest of the input, or is the last one. -/
theorem statement {t : Token} {ts : List Token} (htokens : i.tokens = t :: ts)
    (hbrace : t.symbol ≠ .closer .brace) (ht : t.symbol ≠ .terminator)
    {p : Taken (List Entry) (i.after t ts)} (hs : exec (readStatement setup budget
      (runDirective setup budget) n t (i.after t ts)) s = (.ok p, v))
    (hend : p.2.input.tokens = [] → v = u) (hu : u.SameUnlined u)
    (h : LeadsUpTo setup x budget n closing p.2.input v u) :
    LeadsUpTo setup x budget n closing i s u := by
  have hrun (n : Nat) (t : Token) (i i' : Input) (hi : i' = i.followedBy x) :
      Follows .leading (runDirective setup budget n t i) (runDirective setup budget n t i')
        (Within x) := Sequel.runDirective_followed budget n t hi
  have hafter : (i.followedBy x).after t (ts ++ ⟨.terminator, x.line⟩ :: x.tokens) =
      (i.after t ts).followedBy x := rfl
  unfold LeadsUpTo
  rw [outcome_statement (Input.tokens_followedBy htokens) hbrace ht, hafter]
  cases Sequel.readStatement_followed n t rfl hrun (Sequel.followedBelow hrun _) hs with
  | @within q hx hq =>
    obtain ⟨hfault, j, w, hj, hread, hw⟩ := h
    rw [← hq.rest] at hread
    refine ⟨hq.text.fault.symm.trans hfault, j, w, hq.text.name ▸ hj, ?_, hw⟩
    rw [outcome, hx]
    exact hread
  | @ended q hfault hmore hx hq =>
    obtain rfl := hend hmore
    refine ⟨hfault, q.2.input, v, hq, ?_, hu⟩
    rw [outcome, hx]
    rfl
  | elsewhere hfault hmore he hp hx =>
    obtain rfl := hend hmore
    obtain ⟨es, _, around, removed, hscope, -⟩ := hu
    obtain ⟨placed, w, hp', hw⟩ := place_elsewhere he hp hscope
    obtain ⟨q, hx', hq⟩ := hx _ _ hp'
    refine ⟨hfault, q.2.input, w, hq, ?_, ?_⟩
    · rw [outcome, hx']
      rfl
    · obtain rfl | ⟨old, -, es', rfl, hes⟩ := hw
      · exact .refl hscope
      · exact ⟨es, es', around, removed, hscope, rfl, hes.unlined⟩

end LeadsUpTo

variable (x closing) in
/-- An input that ends all its statements leads up to whatever follows it. -/
theorem leadsUpTo {r : Option Token × Input}
    (h : outcome (readEntries setup budget (runDirective setup budget) n none [] i) s = (.ok r, u))
    (hu : u.SameUnlined u) : LeadsUpTo setup x budget n closing i s u := by
  induction hn : i.size using Nat.strongRecOn generalizing i s with
  | ind size ih =>
    cases htokens : i.tokens with
    | nil =>
      obtain rfl := outcome_end htokens h
      refine .nil htokens ?_ hu
      obtain ⟨name, ts, fault, line⟩ := i
      cases htokens
      rw [readEntries.eq_def] at h
      rcases fault with _ | f
      · rfl
      · cases h
    | cons t ts =>
      have hless : (i.after t ts).size < size := hn ▸ Input.size_after_lt htokens
      by_cases hbrace : t.symbol = .closer .brace
      · obtain ⟨name, _, fault, line⟩ := i
        obtain ⟨_, l⟩ := t
        cases htokens
        cases hbrace
        rw [readEntries_strayBrace] at h
        cases h
      by_cases ht : t.symbol = .terminator
      · obtain ⟨name, _, fault, line⟩ := i
        obtain ⟨_, l⟩ := t
        cases htokens
        cases ht
        rw [readEntries_terminator] at h
        obtain ⟨hfault, j, v, hj, hx, hv⟩ := ih _ hless h rfl
        exact ⟨hfault, j, v, hj, readEntries_terminator.trans hx, hv⟩
      rw [outcome_statement htokens hbrace ht] at h
      rcases hs : exec (readStatement setup budget (runDirective setup budget) n t (i.after t ts)) s
        with ⟨_ | p, v⟩
      all_goals rw [outcome, hs] at h
      · cases h
      have hlt : p.2.input.size < size := Nat.lt_of_le_of_lt p.2.le hless
      exact .statement htokens hbrace ht hs (fun hmore => (outcome_end hmore h).symm) hu
        (ih _ hlt h rfl)

end Before

end Reader

/-! ### Texts -/

/-- The input of a text that stands inside a dictionary. -/
theorem Input.ofText_braces {name a : String} (h : (ofText name a).fault = none) :
    ofText name ("w \x7b\n" ++ a ++ "\n;\n\x7d") =
      ⟨name, ⟨.word "w", 1⟩ :: ⟨.opener .brace, 1⟩ ::
        (followedBy ⟨name, (Lexer.lex 2 a.toList).tokens, none, 1⟩
          ⟨3 + Lexer.newlines a.toList, [⟨.closer .brace, 4 + Lexer.newlines a.toList⟩],
            none⟩).tokens, none, 0⟩ := by
  have hlines (line : Int) : (Lexer.lex line a.toList).fault = none := by
    have hsome := (Lexer.lex_relined 1 line a.toList).2
    rw [Option.map_eq_none_iff.mp h] at hsome
    simpa using hsome
  have hhead : Lexer.lex 1 "w \x7b".toList = ⟨[⟨.word "w", 1⟩, ⟨.opener .brace, 1⟩], none⟩ :=
    Lexer.lex_of_lexWithin (n := 3) (by decide +kernel)
  have hbrace (line : Int) : Lexer.lex line ['\x7d'] = ⟨[⟨.closer .brace, line⟩], none⟩ :=
    Lexer.lex_of_lexWithin (n := 2) rfl
  have htext : ("w \x7b\n" ++ a ++ "\n;\n\x7d").toList =
      "w \x7b".toList ++ '\n' :: (a.toList ++ '\n' :: (';' :: '\n' :: ['\x7d'])) := by simp
  have hstart : 1 + Lexer.newlines "w \x7b".toList + 1 = 2 := by decide
  have hsemi : 2 + Lexer.newlines a.toList + 1 = 3 + Lexer.newlines a.toList := by omega
  have hclose : 3 + Lexer.newlines a.toList + 1 = 4 + Lexer.newlines a.toList := by omega
  rw [ofText, htext, Lexer.lex_append (by rw [hhead]), hstart, Lexer.lex_append (hlines 2), hsemi,
    Lexer.lex_terminator, hclose, hbrace, hhead]
  rfl

namespace Reader

/-- A dictionary in braces is all that is read. -/
theorem read_braces {name k : String} {line line' l : Int} {ts : List Token} {v : ReadState}
    {j : Input} {es : List Entry} (hn : 0 < setup.settings.maxNesting)
    (h : outcome (entries setup 0 1 (some ⟨k, false, line, -1⟩) []
        ⟨name, ts, none, lineAfter (lineAfter 0 [⟨.word k, line⟩]) [⟨.opener .brace, l⟩]⟩)
        (startInside setup) = (.ok (some ⟨.closer .brace, line'⟩, j), v))
    (hv : v.scope.entries = es) (htokens : j.tokens = []) (hfault : j.fault = none) :
    (read setup ⟨name, ⟨.word k, line⟩ :: ⟨.opener .brace, l⟩ :: ts, none, 0⟩).1 =
      .ok (.dictionary ⟨name, false, 1, j.line⟩ [.dictionary ⟨k, false, line, line'⟩ es]) := by
  unfold entries at h
  dsimp only at h
  rw [Grammar.read_eq, entries]
  dsimp only
  generalize setup.settings.budget 0 = budget at h ⊢
  obtain ⟨name', _, _, last⟩ := j
  cases htokens
  cases hfault
  have hentry : outcome (readEntry setup budget (runDirective setup budget) 0 ⟨k, false, line, -1⟩
      ⟨name, ⟨.opener .brace, l⟩ :: ts, none, lineAfter 0 [⟨.word k, line⟩]⟩)
      ⟨.fresh [] [], setup.settings.mode, []⟩ =
        (.ok (.dictionary ⟨k, false, line, line'⟩ es, ⟨name', [], none, last⟩),
          { v with scope := .fresh [] [] }) := by
    rw [readEntry_brace hn, Grammar.checked_eq (by simp)]
    dsimp only
    rw [Nat.zero_add, show ReadState.mk (Scope.inner _) _ _ = startInside setup from rfl, h, ← hv]
    rfl
  have hplace (e : Entry) (mode : InputMode) (log : List Event) :
      exec (place e) ⟨.fresh [] [], mode, log⟩ = (.ok [e], ⟨.fresh [e] [], mode, log ++ []⟩) :=
    exec_place e _
  rw [readEntries_statement (t := ⟨.word k, line⟩) (by simp) (by simp) rfl,
    readStatement_keyword (k := k) (p := false) rfl, hentry]
  dsimp only
  rw [hplace]
  dsimp only
  rw [readEntries_end]
  rfl

/-- **A text means the same inside a dictionary.** -/
theorem ofText_enclosed (hregistry : setup.registry = .standard)
    (hnesting : 0 ≤ setup.settings.maxNesting) {name a : String} {h : Heading} {es : List Entry}
    (hread : (ofText setup a name).1 = .ok (.dictionary h es)) (hinward : refersOutwards a = false)
    (hpulls : (ofText (setup.withholding refersOutwards) a name).1 = (ofText setup a name).1) :
    ∃ es', (ofText setup.roomier ("w \x7b\n" ++ a ++ "\n;\n\x7d") name).1 =
        .ok (.dictionary ⟨name, false, 1, 4 + Lexer.newlines a.toList⟩
          [.dictionary ⟨"w", false, 1, 4 + Lexer.newlines a.toList⟩ es']) ∧
      AllSameUnlined es es' := by
  have hsealed : (read (setup.withholding refersOutwards) (.ofText name a)).1 =
      .ok (.dictionary h es) := hpulls.trans hread
  obtain ⟨_, _, u, ⟨rest, hx, -⟩, he⟩ := read_eq_ok.mp hsealed
  obtain rfl : es = u.scope.entries := (Entry.dictionary.inj he).2
  obtain ⟨q, v, removed, hx, hv⟩ := exec_inside (inward_of_refersOutwards hinward) hx
  have hfault : (Input.ofText name a).fault = none :=
    (leadsUpTo ⟨0, [], none⟩ none (outcome_eq_ok.mpr ⟨_, hx, rfl⟩) (.refl hv)).1
  let last := 4 + Lexer.newlines a.toList
  let x : Sequel := ⟨3 + Lexer.newlines a.toList, [⟨.closer .brace, last⟩], none⟩
  let i : Input := ⟨name, (Lexer.lex 2 a.toList).tokens, none, 1⟩
  have hi : (Input.ofText name a).Like False i :=
    ⟨rfl, (Lexer.lex_relined 1 2 a.toList).1, by rw [hfault], fun hf => hf.elim⟩
  have hregistry : setup.roomier.registry = .standard := hregistry
  obtain ⟨q, w, es', around', removed', hx, hw, hes⟩ :=
    exec_inside_relined hregistry hi rfl hx hv
  obtain ⟨-, j, w', hj, hread, hw'⟩ :=
    leadsUpTo x (some ⟨"w", false, 1, -1⟩) (outcome_eq_ok.mpr ⟨_, hx, rfl⟩) (.refl hw)
  obtain ⟨es₁, es₂, _, _, hw₁, rfl, hes₂⟩ := hw'
  obtain ⟨rfl, -, -⟩ := Scope.fresh.inj (hw.symm.trans hw₁)
  have hle : 0 ≤ last := by
    unfold last Lexer.newlines
    omega
  have hlast : lineAfter j.line [⟨.closer .brace, last⟩] = last :=
    show (if 0 ≤ last then last else j.line) = last from if_pos hle
  have hj : j = ⟨name, [⟨.closer .brace, last⟩], none, j.line⟩ := by
    obtain ⟨_, _, _, line⟩ := j
    obtain ⟨rfl, rfl, rfl⟩ := hj
    rfl
  rw [hj, readEntries_brace, hlast] at hread
  refine ⟨es₂, ?_, hes₂.trans hes⟩
  rw [ofText, Input.ofText_braces hfault]
  exact read_braces (j := ⟨name, [], none, last⟩) (Int.lt_add_one_of_le hnesting) hread rfl rfl rfl

/-- Variables, one of which refers outwards. -/
def variablesSetup : Setup := environmentSetup [("A", "1 $C"), ("B", "$!x"), ("C", "2")]

/-- A dictionary that looks a name up further out, in another mode, and a statement left open. -/
def lookingInwards : Input := .ofTokens "t" [⟨.word "x", 1⟩, ⟨.reference "A", 1⟩, ⟨.terminator, 1⟩,
  ⟨.directive "inputMode", 2⟩, ⟨.word "merge", 2⟩, ⟨.word "d", 3⟩, ⟨.opener .brace, 3⟩,
  ⟨.word "y", 3⟩, ⟨.reference "x", 3⟩, ⟨.terminator, 3⟩, ⟨.closer .brace, 3⟩, ⟨.word "v", 4⟩,
  ⟨.reference "d/y", 4⟩]

theorem ofText_enclosed_variables :
    ∃ setup a h es, setup.registry = .standard ∧ 0 ≤ setup.settings.maxNesting ∧
      (ofText setup a "t").1 = .ok (.dictionary h es) ∧ refersOutwards a = false ∧
      (ofText (setup.withholding refersOutwards) a "t").1 = (ofText setup a "t").1 ∧
      es.length = 3 ∧ ∃ es',
        (ofText setup.roomier ("w \x7b\n" ++ a ++ "\n;\n\x7d") "t").1 =
          .ok (.dictionary ⟨"t", false, 1, 4 + Lexer.newlines a.toList⟩
            [.dictionary ⟨"w", false, 1, 4 + Lexer.newlines a.toList⟩ es']) ∧
        AllSameUnlined es es' := by
  have hlex : Lexer.lexWithin 30 1 "x $A;\n#inputMode merge\nd \x7by $x;\x7d\nv $d/y".toList =
      some ⟨lookingInwards.tokens, none⟩ := by decide +kernel
  have htext (setup : Setup) := ofText_eq_read lookingInwards.tokens hlex setup "t"
  let value : List Token := [⟨.number (.int 1), 1⟩, ⟨.number (.int 2), 1⟩]
  let made : Entry := .dictionary ⟨"t", false, 1, 4⟩ [.primitive ⟨"x", false, 1, 1⟩ value,
    .dictionary ⟨"d", false, 3, 3⟩ [.primitive ⟨"y", false, 3, 3⟩ value],
    .primitive ⟨"v", false, 4, 4⟩ value]
  have hread : (read variablesSetup lookingInwards).1 = .ok made := by cbv
  have hsealed :
      (read (variablesSetup.withholding refersOutwards) lookingInwards).1 = .ok made := by
    cbv
  have hinward : refersOutwards "x $A;\n#inputMode merge\nd \x7by $x;\x7d\nv $d/y" = false := by
    rw [refersOutwards, Lexer.lex_of_lexWithin hlex]
    cbv
  have hpulls := (htext (variablesSetup.withholding refersOutwards)).symm ▸ hsealed
  have hread := (htext variablesSetup).symm ▸ hread
  exact ⟨variablesSetup, _, _, _, rfl, by decide, hread, hinward, hpulls.trans hread.symm, rfl,
    ofText_enclosed rfl (by decide) hread hinward (hpulls.trans hread.symm)⟩

/-- Where no dictionary is allowed, not even one level more makes room for one. -/
theorem not_ofText_enclosed :
    ∃ setup a h es f, setup.registry = .standard ∧
      (ofText setup a "t").1 = .ok (.dictionary h es) ∧ refersOutwards a = false ∧
      (ofText (setup.withholding refersOutwards) a "t").1 = (ofText setup a "t").1 ∧
      (ofText setup.roomier ("w \x7b\n" ++ a ++ "\n;\n\x7d") "t").1 = .error f := by
  let setup : Setup := bareSetup.limited 64 (-1)
  have hlex : Lexer.lexWithin 10 1 "a 1;".toList =
      some ⟨[⟨.word "a", 1⟩, ⟨.number (.int 1), 1⟩, ⟨.terminator, 1⟩], none⟩ := by decide +kernel
  have hlex' : Lexer.lexWithin 20 1 ("w \x7b\n" ++ "a 1;" ++ "\n;\n\x7d").toList =
      some ⟨[⟨.word "w", 1⟩, ⟨.opener .brace, 1⟩, ⟨.word "a", 2⟩, ⟨.number (.int 1), 2⟩,
        ⟨.terminator, 2⟩, ⟨.terminator, 3⟩, ⟨.closer .brace, 4⟩], none⟩ := by decide +kernel
  have hread (files : Files) : (ofText { setup with files } "a 1;" "t").1 =
      .ok (.dictionary ⟨"t", false, 1, 1⟩ [.primitive ⟨"a", false, 1, 1⟩
        [⟨.number (.int 1), 1⟩]]) := by
    rw [ofText_eq_read _ hlex]
    cbv
  have hfails : (ofText setup.roomier ("w \x7b\n" ++ "a 1;" ++ "\n;\n\x7d") "t").1 =
      .error (.inText (.nestedTooDeep 0) 1 "t") := by
    rw [ofText_eq_read _ hlex']
    cbv
  have hinward : refersOutwards "a 1;" = false := by
    rw [refersOutwards, Lexer.lex_of_lexWithin hlex]
    cbv
  exact ⟨setup, "a 1;", _, _, _, rfl, hread setup.files, hinward,
    (hread (setup.files.withholding refersOutwards)).trans (hread setup.files).symm, hfails⟩

end Reader

end CaseDict
