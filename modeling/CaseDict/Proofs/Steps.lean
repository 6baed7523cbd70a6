import CaseDict.Proofs.Grammar
import CaseDict.Proofs.Run
import CaseDict.Reader
/-! # Steps over plain tokens

What the reader does at each token that is no reference and no directive, as equations between
outcomes: the value of an entry, a statement, and the statements of a dictionary. -/

namespace CaseDict

/-- The symbol of a keyword, quoted if it is a pattern. -/
def keywordSymbol (k : String) (isPattern : Bool) : Symbol :=
  if isPattern then .quoted k else .word k

open Expansion Statement

/-! ### Values -/

/-- Puts tokens before those of a value that was read. -/
def prepend {β σ : Type} (ts : List Token) :
    Except Failure ((List Token × Int) × β) × σ → Except Failure ((List Token × Int) × β) × σ
  | (.ok ((us, endLine), b), s) => (.ok ((ts ++ us, endLine), b), s)
  | (.error f, s) => (.error f, s)

@[simp] theorem prepend_nil {β σ : Type} (r : Except Failure ((List Token × Int) × β) × σ) :
    prepend [] r = r := by
  rcases r with ⟨_ | _, _⟩ <;> rfl

theorem prepend_prepend {β σ : Type} (ts us : List Token)
    (r : Except Failure ((List Token × Int) × β) × σ) :
    prepend ts (prepend us r) = prepend (ts ++ us) r := by
  rcases r with ⟨_ | _, _⟩ <;> simp [prepend]

section Values

variable {reference : Token → String → ExpandM (List Token)}
  {inline : Token → (i : Input) → ExpandM (Taken (List Token) i)}
  {name : String} {fault : Option Failure} {line : Int} {log : List Event}

theorem readValue_terminator {line' : Int} {ts : List Token} :
    outcome (readValue reference inline [] ⟨name, ⟨.terminator, line'⟩ :: ts, fault, line⟩) log =
      (.ok (([], line'), ⟨name, ts, fault, lineAfter line [⟨.terminator, line'⟩]⟩), log) := by
  rw [readValue.eq_def]
  rfl

theorem readValue_nil :
    outcome (readValue reference inline [] ⟨name, [], none, line⟩) log =
      (.ok (([], line), ⟨name, [], none, line⟩), log) := by
  rw [readValue.eq_def]
  rfl

theorem readValue_unclosed {o : Opening} {opened : List Opening} :
    outcome (readValue reference inline (o :: opened) ⟨name, [], none, line⟩) log =
      (.error (.inText (.unclosed o.bracket) o.line name), log) := by
  rw [readValue.eq_def]
  rfl

/-- A token stands for the same tokens before every input. -/
theorem readValue_expanded {t : Token} {us ts : List Token} {opened : List Opening}
    (hx : ∀ i : Input, expandToken reference inline t i = pure (us, i.unread))
    (ht : t.symbol = .terminator → opened ≠ []) :
    outcome (readValue reference inline opened ⟨name, t :: ts, fault, line⟩) log =
      match track opened t name with
      | .ok opened => prepend us
          (outcome (readValue reference inline opened ⟨name, ts, fault, lineAfter line [t]⟩) log)
      | .error f => (.error f, log) := by
  have ht' : ¬(t.symbol = .terminator ∧ opened.isEmpty = true) := by
    rintro ⟨h, ho⟩
    exact ht h (List.isEmpty_iff.mp ho)
  rw [readValue.eq_def]
  simp only [outcome, exec_bind, exec_lift, Input.next, if_neg ht', hx, exec_pure, Input.after]
  cases track opened t name with
  | error f => rfl
  | ok opened =>
    simp only [Input.Less.onward, Input.unread, Input.Less.toRest, lineAfter, List.foldl]
    rcases exec (readValue reference inline opened
      ⟨name, ts, fault, if 0 ≤ t.line then t.line else line⟩) log with ⟨_ | ⟨⟨_, _⟩, _⟩, _⟩ <;> rfl

theorem readValue_cons {t : Token} {ts : List Token} {opened : List Opening}
    (hm : t.symbol.isMacro = false) (ht : t.symbol = .terminator → opened ≠ []) :
    outcome (readValue reference inline opened ⟨name, t :: ts, fault, line⟩) log =
      match track opened t name with
      | .ok opened => prepend [t]
          (outcome (readValue reference inline opened ⟨name, ts, fault, lineAfter line [t]⟩) log)
      | .error f => (.error f, log) := by
  refine readValue_expanded (fun i => ?_) ht
  unfold expandToken
  split <;> simp_all [Symbol.isMacro]

end Values

/-! ### Statements -/

/-- An entry goes to the end if it redefines nothing, or redefinitions are retained. -/
theorem Entry.place_new {mode : InputMode} {es : List Entry} {e : Entry}
    (h : mode = .retain ∨ newest? e.keyword es = none) :
    e.place mode es = .ok ⟨es ++ [e], [e], []⟩ := by
  unfold Entry.place
  rcases h with rfl | h
  · split <;> rfl
  · rw [h]

theorem Entry.place_retain (es : List Entry) (e : Entry) :
    e.place .retain es = .ok ⟨es ++ [e], [e], []⟩ := place_new (.inl rfl)

section Statements

variable {setup : Setup} {budget : Nat} {run : DirectiveRunner} {nesting : Nat}
  {closing : Option Heading} {stops : List String} {h : Heading}
  {name : String} {fault : Option Failure} {line : Int} {ts : List Token} {s : ReadState}

theorem exec_inDictionary {α : Type} (m : ReadM α) :
    exec (inDictionary m) s =
      ((exec m { s with scope := s.scope.inner }).1.map
        (·, (exec m { s with scope := s.scope.inner }).2.scope.entries),
      { (exec m { s with scope := s.scope.inner }).2 with scope := s.scope }) := rfl

theorem exec_expanding {α : Type} (act : Context → ExpandM α) :
    exec (expanding setup act) s =
      ((exec (act ⟨setup, s.scope.frames⟩) s.log).1,
      { s with log := (exec (act ⟨setup, s.scope.frames⟩) s.log).2 }) := rfl

theorem readEntries_end :
    outcome (readEntries setup budget run nesting none stops ⟨name, [], none, line⟩) s =
      (.ok (none, ⟨name, [], none, line⟩), s) := by
  rw [readEntries.eq_def]
  rfl

theorem readEntries_unclosed :
    outcome (readEntries setup budget run nesting (some h) stops ⟨name, [], none, line⟩) s =
      (.error (.inText (.unclosedDictionary h.keyword) h.startLine name), s) := by
  rw [readEntries.eq_def]
  rfl

theorem readEntries_brace {line' : Int} :
    outcome (readEntries setup budget run nesting (some h) stops
        ⟨name, ⟨.closer .brace, line'⟩ :: ts, fault, line⟩) s =
      (.ok (some ⟨.closer .brace, line'⟩,
        ⟨name, ts, fault, lineAfter line [⟨.closer .brace, line'⟩]⟩), s) := by
  rw [readEntries.eq_def]
  rfl

theorem readEntries_strayBrace {line' : Int} :
    outcome (readEntries setup budget run nesting none stops
        ⟨name, ⟨.closer .brace, line'⟩ :: ts, fault, line⟩) s =
      (.error (.inText .strayBrace line' name), s) := by
  rw [readEntries.eq_def]
  rfl

theorem readEntries_terminator {line' : Int} :
    outcome (readEntries setup budget run nesting closing stops
        ⟨name, ⟨.terminator, line'⟩ :: ts, fault, line⟩) s =
      outcome (readEntries setup budget run nesting closing stops
        ⟨name, ts, fault, lineAfter line [⟨.terminator, line'⟩]⟩) s := by
  rw [readEntries.eq_def]
  simp only [outcome, exec_bind, exec_lift, Input.next, Input.after, reduceCtorEq, if_false,
    if_true, lineAfter, List.foldl]
  rcases exec (readEntries setup budget run nesting closing stops
    ⟨name, ts, fault, if 0 ≤ line' then line' else line⟩) s with ⟨_ | ⟨_, _⟩, _⟩ <;> rfl

theorem readEntries_statement {t : Token} (ht : t.symbol ≠ .closer .brace)
    (ht' : t.symbol ≠ .terminator) (hd : t.symbol.isDirectiveIn stops = false) :
    outcome (readEntries setup budget run nesting closing stops ⟨name, t :: ts, fault, line⟩) s =
      match outcome (readStatement setup budget run nesting t
        ⟨name, ts, fault, lineAfter line [t]⟩) s with
      | (.ok (_, i), s) => outcome (readEntries setup budget run nesting closing stops i) s
      | (.error f, s) => (.error f, s) := by
  rw [readEntries.eq_def]
  simp only [outcome, exec_bind, exec_lift, Input.next, Input.after, if_neg ht, if_neg ht', hd,
    Bool.false_eq_true, if_false, lineAfter, List.foldl]
  rcases exec (readStatement setup budget run nesting t
    ⟨name, ts, fault, if 0 ≤ t.line then t.line else line⟩) s with ⟨_ | ⟨_, r⟩, s'⟩
  · rfl
  · simp only [Except.map, Input.Less.onward]
    rcases exec (readEntries setup budget run nesting closing stops r.input) s' with
      ⟨_ | ⟨_, _⟩, _⟩ <;> rfl

/-- Errors of a statement get the name of the text. -/
theorem readStatement_keyword {t : Token} {k : String} {p : Bool} {i : Input}
    (ht : t.symbol = keywordSymbol k p) :
    outcome (readStatement setup budget run nesting t i) s =
      match outcome (readEntry setup budget run nesting ⟨k, p, t.line, -1⟩ i) s with
      | (.ok (e, j), s) =>
        match exec (place e) s with
        | (.ok es, s) => (.ok (es, j), s)
        | (.error f, s) => (.error (f.within i.name), s)
      | (.error f, s) => (.error (f.within i.name), s) := by
  rw [readStatement.eq_def]
  cases p
  all_goals
    simp only [keywordSymbol, if_true, Bool.false_eq_true, if_false] at ht
    simp only [outcome, exec_adapt, ht, exec_bind]
    generalize exec (readEntry setup budget run nesting _ i) s = r
    rcases r with ⟨_ | ⟨e, rest⟩, s'⟩
    · rfl
    · simp only [Except.map]
      rcases exec (place e) s' with ⟨_ | _, _⟩ <;> rfl

theorem readStatement_stray {t : Token} {i : Input} (hk : ∀ k p, t.symbol ≠ keywordSymbol k p)
    (hm : t.symbol.isMacro = false) :
    outcome (readStatement setup budget run nesting t i) s =
      (.error (.inText (.keywordExpected t.text) t.line i.name), s) := by
  rw [readStatement.eq_def]
  split
  · next h => rw [h] at hm; contradiction
  · next h => rw [h] at hm; contradiction
  · next k h => exact absurd h (hk k false)
  · next k h => exact absurd h (hk k true)
  · rfl

theorem readEntry_end :
    outcome (readEntry setup budget run nesting h ⟨name, [], none, line⟩) s =
      (((Heading.checked { h with endLine := h.startLine }).map fun h =>
        (.primitive h [], ⟨name, [], none, line⟩)), s) := by
  rw [readEntry.eq_def]
  simp only [outcome, exec_bind, exec_lift, Input.next]
  rcases Heading.checked { h with endLine := h.startLine } <;> rfl

theorem readEntry_tooDeep {line' : Int} (hn : setup.settings.maxNesting ≤ nesting) :
    outcome (readEntry setup budget run nesting h
        ⟨name, ⟨.opener .brace, line'⟩ :: ts, fault, line⟩) s =
      (.error (.inText (.nestedTooDeep setup.settings.maxNesting) h.startLine name), s) := by
  rw [readEntry.eq_def]
  simp only [outcome, exec_bind, exec_lift, Input.next, if_pos hn]
  rfl

theorem readEntry_brace {line' : Int} (hn : nesting < setup.settings.maxNesting) :
    outcome (readEntry setup budget run nesting h
        ⟨name, ⟨.opener .brace, line'⟩ :: ts, fault, line⟩) s =
      match h.checked with
      | .error f => (.error f, s)
      | .ok h =>
        match outcome (readEntries setup budget run (nesting + 1) (some h) []
          ⟨name, ts, fault, lineAfter line [⟨.opener .brace, line'⟩]⟩)
          { s with scope := s.scope.inner } with
        | (.ok (ending, j), inside) =>
          (.ok (.dictionary { h with endLine := (ending.map (·.line)).getD (-1) }
            inside.scope.entries, j), { inside with scope := s.scope })
        | (.error f, inside) => (.error f, { inside with scope := s.scope }) := by
  rw [readEntry.eq_def]
  simp only [outcome, exec_bind, exec_lift, Input.next, if_neg (Int.not_le.mpr hn), Input.after,
    lineAfter, List.foldl]
  rcases h.checked with _ | h
  · rfl
  · simp only [exec_inDictionary]
    rcases exec (readEntries setup budget run (nesting + 1) (some h) []
      ⟨name, ts, fault, if 0 ≤ line' then line' else line⟩) { s with scope := s.scope.inner } with
      ⟨_ | ⟨_, _⟩, _⟩ <;> rfl

theorem readPrimitive_eq (i : Input) :
    outcome (readEntry.readPrimitive setup budget h i) s =
      match outcome (readValue (reference ⟨setup, s.scope.frames⟩ budget)
        (inline ⟨setup, s.scope.frames⟩ budget) [] i) s.log with
      | (.ok ((vs, endLine), j), log) =>
        (((Heading.checked { h with endLine }).map fun h => (.primitive h vs, j)),
          { s with log })
      | (.error f, log) => (.error f, { s with log }) := by
  simp only [readEntry.readPrimitive, outcome, exec_bind, readTokens, exec_expanding]
  rcases exec (readValue (reference ⟨setup, s.scope.frames⟩ budget)
    (inline ⟨setup, s.scope.frames⟩ budget) [] i) s.log with ⟨_ | ⟨⟨vs, endLine⟩, r⟩, log⟩
  · rfl
  · simp only [exec_lift, Except.map]
    rcases Heading.checked { h with endLine } with _ | _ <;> rfl

theorem readEntry_value {t : Token} (ht : t.symbol ≠ .opener .brace)
    (hm : t.symbol.isMacro = false) :
    readEntry setup budget run nesting h ⟨name, t :: ts, fault, line⟩ =
      readEntry.readPrimitive setup budget h ⟨name, t :: ts, fault, line⟩ := by
  obtain ⟨y, l⟩ := t
  rw [readEntry.eq_def]
  cases y with
  | reference => contradiction
  | opener b => cases b <;> first | contradiction | rfl
  | _ => rfl

/-- The statement of an input is read behind its first token. -/
theorem Reader.outcome_statement_cons {depth : Int} {i : Input} {t : Token} {ts : List Token}
    (h : i.tokens = t :: ts) :
    outcome (Reader.statement setup depth i nesting) s =
      outcome (readStatement setup (setup.settings.budget depth)
        (runDirective setup (setup.settings.budget depth)) nesting t (i.after t ts)) s := by
  have hexpect : i.expect "keyword" = .ok (t, ⟨i.after t ts, Input.size_after_lt h⟩) := by
    rw [Input.expect, Input.next_of_tokens h]
    rfl
  unfold outcome Reader.statement
  rw [exec_bind, exec_lift, hexpect]
  dsimp only
  rw [exec_bind]
  rcases exec (readStatement setup _ _ nesting t (i.after t ts)) s with ⟨_ | ⟨_, _⟩, _⟩ <;> rfl

end Statements

end CaseDict
