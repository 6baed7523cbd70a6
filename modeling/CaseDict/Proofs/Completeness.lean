import CaseDict.Proofs.Steps
/-! # Derivations are read

Tokens that are derived from the grammar are read, and the entries they stand for are placed in
their order: one lemma for each production, put together by recursion on the derivation. -/

namespace CaseDict

open Expansion Statement

namespace Grammar

/-! ### Values -/

section Values

variable {reference : Token → String → ExpandM (List Token)}
  {inline : Token → (i : Input) → ExpandM (Taken (List Token) i)}
  {name : String} {fault : Option Failure} {log : List Event}

theorem track_atom {inside : Bool} {t : Token} (ht : t.symbol.isAtom inside)
    (opened : List Opening) : track opened t name = .ok opened := by
  unfold track
  split <;> simp_all [Symbol.isAtom]

/-- Nested tokens are passed over, whatever brackets are open around them. -/
theorem Nested.readValue {inside : Bool} {ts : List Token} (h : Nested inside ts)
    {opened : List Opening} (ho : inside = true → opened ≠ []) (rest : List Token) (line : Int) :
    outcome (readValue reference inline opened ⟨name, ts ++ rest, fault, line⟩) log =
      prepend ts (outcome (readValue reference inline opened
        ⟨name, rest, fault, lineAfter line ts⟩) log) := by
  induction h generalizing opened rest line with
  | nil => exact (prepend_nil _).symm
  | @atom inside t ts ht hts ih =>
    have hterm : t.symbol = .terminator → opened ≠ [] := fun hs => ho (by rw [hs] at ht; exact ht)
    rw [List.cons_append, readValue_cons (isMacro_of_isAtom ht) hterm, track_atom ht]
    dsimp only
    rw [ih ho, prepend_prepend]
    rfl
  | @group inside b line' line'' us ts hus hts ihu iht =>
    rw [List.append_assoc, List.cons_append, List.cons_append,
      readValue_cons (by rfl) (by simp)]
    dsimp only [track]
    rw [ihu (by simp), readValue_cons (by rfl) (by simp)]
    simp only [track, close, if_true]
    rw [iht ho, prepend_prepend, prepend_prepend, prepend_prepend]
    have hl : lineAfter line (⟨.opener b, line'⟩ :: us ++ ⟨.closer b, line''⟩ :: ts) =
        lineAfter (lineAfter (lineAfter (lineAfter line [⟨.opener b, line'⟩]) us)
          [⟨.closer b, line''⟩]) ts := by
      rw [lineAfter_append, lineAfter_cons _ ⟨.opener b, line'⟩ us,
        lineAfter_cons _ ⟨.closer b, line''⟩ ts]
    rw [hl]
    simp only [List.cons_append, List.append_assoc, List.nil_append]

/-- A value is read up to the terminator after it. -/
theorem IsValue.readValue {vs : List Token} (h : IsValue vs) {line line' : Int}
    {rest : List Token} :
    outcome (readValue reference inline []
        ⟨name, vs ++ ⟨.terminator, line'⟩ :: rest, fault, line⟩) log =
      (.ok ((vs, line'),
        ⟨name, rest, fault, lineAfter line (vs ++ [⟨.terminator, line'⟩])⟩), log) := by
  rw [h.nested.readValue (by simp), readValue_terminator, lineAfter_append]
  simp [prepend]

end Values

/-! ### Keywords -/

/-- What a token needs to be a keyword. -/
theorem heading?_eq_some {t : Token} {line : Int} {h : Heading} (hk : heading? t line = some h) :
    ∃ k p, t.symbol = keywordSymbol k p ∧ h = ⟨k, p, t.line, line⟩ ∧
      (p = true → Pattern.fault? k = none) := by
  unfold heading? at hk
  split at hk
  · next k hs =>
    obtain rfl := Option.some.inj hk
    exact ⟨k, false, hs, rfl, by simp⟩
  · next k hs =>
    split at hk
    · next hf =>
      obtain rfl := Option.some.inj hk
      exact ⟨k, true, hs, rfl, fun _ => hf⟩
    · contradiction
  · contradiction

theorem checked_eq {k : String} {p : Bool} (hk : p = true → Pattern.fault? k = none)
    (line line' : Int) :
    Heading.checked ⟨k, p, line, line'⟩ = .ok ⟨k, p, line, line'⟩ := by
  cases p <;> simp_all [Heading.checked, Heading.failure?]

theorem place_retain (e : Entry) (es : List Entry) (around : List (Frame Entry))
    (log : List Event) :
    exec (place e) ⟨.fresh es around, .retain, log⟩ =
      (.ok [e], ⟨.fresh (es ++ [e]) around, .retain, log⟩) := by
  simp only [exec, place, ExceptT.run, ExceptT.mk, StateT.run, Scope.place, Entry.place_retain,
    List.append_nil]

theorem keywordSymbol_ne (k : String) (p : Bool) :
    keywordSymbol k p ≠ .closer .brace ∧ keywordSymbol k p ≠ .terminator ∧
      ∀ stops, (keywordSymbol k p).isDirectiveIn stops = false := by
  cases p <;> simp [keywordSymbol, Symbol.isDirectiveIn]

/-! ### Statements and bodies -/

section Statements

variable {setup : Setup} {budget : Nat} {run : DirectiveRunner} {nesting : Nat}
  {h : Heading} {name : String} {fault : Option Failure}

/-- A statement whose entry is read is placed at the end of the dictionary. -/
theorem readEntries_of_readEntry {t : Token} {k : String} {p : Bool}
    (ht : t.symbol = keywordSymbol k p) {closing : Option Heading} {stops : List String}
    {ts : List Token} {line : Int} {es : List Entry}
    {around : List (Frame Entry)} {log log' : List Event} {e : Entry} {j : Input}
    (he : outcome (readEntry setup budget run nesting ⟨k, p, t.line, -1⟩
        ⟨name, ts, fault, lineAfter line [t]⟩) ⟨.fresh es around, .retain, log⟩ =
      (.ok (e, j), ⟨.fresh es around, .retain, log'⟩)) :
    outcome (readEntries setup budget run nesting closing stops ⟨name, t :: ts, fault, line⟩)
        ⟨.fresh es around, .retain, log⟩ =
      outcome (readEntries setup budget run nesting closing stops j)
        ⟨.fresh (es ++ [e]) around, .retain, log'⟩ := by
  obtain ⟨h1, h2, h3⟩ := keywordSymbol_ne k p
  rw [readEntries_statement (ht ▸ h1) (ht ▸ h2) (ht ▸ h3 stops), readStatement_keyword ht, he]
  simp only [place_retain]

variable (setup budget run name fault)

/-- Where the tokens stand before any others, they are read and the entries are placed. -/
def Reads (n : Nat) (ts : List Token) (es' : List Entry) : Prop :=
  ∀ closing stops rest line es around log,
    outcome (readEntries setup budget run n closing stops ⟨name, ts ++ rest, fault, line⟩)
        ⟨.fresh es around, .retain, log⟩ =
      outcome (readEntries setup budget run n closing stops
        ⟨name, rest, fault, lineAfter line ts⟩) ⟨.fresh (es ++ es') around, .retain, log⟩

variable {setup budget run name fault}

theorem Reads.nil {n : Nat} : Reads setup budget run name fault n [] [] := by
  intro closing stops rest line es around log
  rw [List.append_nil]
  rfl

theorem Reads.terminator {n : Nat} {line : Int} :
    Reads setup budget run name fault n [⟨.terminator, line⟩] [] := by
  intro closing stops rest line es around log
  rw [List.append_nil, List.singleton_append, readEntries_terminator]

theorem Reads.append {n : Nat} {ts us : List Token} {es es' : List Entry}
    (h : Reads setup budget run name fault n ts es)
    (h' : Reads setup budget run name fault n us es') :
    Reads setup budget run name fault n (ts ++ us) (es ++ es') := by
  intro closing stops rest line before around log
  rw [List.append_assoc, h, h', lineAfter_append, List.append_assoc]

theorem Reads.bare {n : Nat} {k : Token} {line : Int} {h : Heading}
    (hk : heading? k line = some h) :
    Reads setup budget run name fault n [k, ⟨.terminator, line⟩] [.primitive h []] := by
  intro closing stops rest line' es around log
  obtain ⟨s, p, hs, rfl, hp⟩ := heading?_eq_some hk
  refine readEntries_of_readEntry hs ?_
  rw [List.append_eq, List.cons_append, List.nil_append, readEntry_value (by simp) (by rfl),
    readPrimitive_eq, readValue_terminator]
  simp only [checked_eq hp]
  rfl

theorem Reads.value {n : Nat} {k : Token} {line : Int} {h : Heading} {vs : List Token}
    (hk : heading? k line = some h) (hvs : IsValue vs) :
    Reads setup budget run name fault n (k :: vs ++ [⟨.terminator, line⟩]) [.primitive h vs] := by
  intro closing stops rest line' es around log
  obtain ⟨s, p, hs, rfl, hp⟩ := heading?_eq_some hk
  obtain ⟨v, us, rfl⟩ := List.exists_cons_of_ne_nil hvs.nonempty
  rw [List.append_assoc, List.cons_append, List.cons_append]
  refine readEntries_of_readEntry hs ?_
  rw [List.cons_append, List.nil_append,
    readEntry_value (hvs.unbraced v rfl) (hvs.nested.isMacro _ (by simp)), readPrimitive_eq,
    ← List.cons_append, hvs.readValue]
  simp only [checked_eq hp]
  rfl

theorem Reads.dictionary {n : Nat} {k : Token} {line line' : Int} {h : Heading} {ts : List Token}
    {es' : List Entry} (hk : heading? k line' = some h) (hn : n < setup.settings.maxNesting)
    (hts : Reads setup budget run name fault (n + 1) ts es') :
    Reads setup budget run name fault n
      (k :: ⟨.opener .brace, line⟩ :: ts ++ [⟨.closer .brace, line'⟩]) [.dictionary h es'] := by
  intro closing stops rest line₀ es around log
  obtain ⟨s, p, hs, rfl, hp⟩ := heading?_eq_some hk
  rw [List.append_assoc, List.cons_append, List.cons_append]
  refine readEntries_of_readEntry hs ?_
  rw [readEntry_brace hn, checked_eq hp]
  simp only [Scope.inner, List.singleton_append]
  rw [hts, readEntries_brace, ← lineAfter_append, ← lineAfter_append]
  rfl

mutual

/-- **A derived statement is read, and its entry placed.** -/
theorem Statement.reads {n : Nat} {ts : List Token} {e : Entry} :
    Statement setup.settings.maxNesting n ts e → Reads setup budget run name fault n ts [e]
  | .bare hk => Reads.bare hk
  | .value hk hvs => Reads.value hk hvs
  | .dictionary hk hn hts => Reads.dictionary hk hn hts.reads

/-- **A derived body is read, and its entries placed in order.** -/
theorem Body.reads {n : Nat} {ts : List Token} {es : List Entry} :
    Body setup.settings.maxNesting n ts es → Reads setup budget run name fault n ts es
  | .nil => Reads.nil
  | .spare hts => Reads.terminator.append hts.reads
  | .cons hss hts => hss.reads.append hts.reads

end

/-- **A document is read to its end, and its entries placed in order.** -/
theorem Document.outcome_readEntries {n : Nat} {line : Int} {ts : List Token} {es' : List Entry}
    (h : Document setup.settings.maxNesting n line ts es') (stops : List String) (es : List Entry)
    (around : List (Frame Entry)) (log : List Event) :
    outcome (readEntries setup budget run n none stops ⟨name, ts, none, line⟩)
        ⟨.fresh es around, .retain, log⟩ =
      (.ok (none, ⟨name, [], none, lineAfter line ts⟩),
        ⟨.fresh (es ++ es') around, .retain, log⟩) := by
  cases h with
  | closed hts =>
    rw [← List.append_nil ts, hts.reads, readEntries_end, List.append_nil]
  | @bare ts es' k h hts hk =>
    obtain ⟨s, p, hs, rfl, hp⟩ := heading?_eq_some hk
    have he : outcome (readEntry setup budget run n ⟨s, p, k.line, -1⟩
          ⟨name, [], none, lineAfter (lineAfter line ts) [k]⟩)
          ⟨.fresh (es ++ es') around, .retain, log⟩ =
        (.ok (.primitive ⟨s, p, k.line, k.line⟩ [],
          ⟨name, [], none, lineAfter (lineAfter line ts) [k]⟩),
          ⟨.fresh (es ++ es') around, .retain, log⟩) := by
      rw [readEntry_end, checked_eq hp]
      rfl
    rw [hts.reads, readEntries_of_readEntry hs he, readEntries_end, List.append_assoc,
      lineAfter_append]
  | @value ts es' k h vs hts hk hvs =>
    obtain ⟨s, p, hs, rfl, hp⟩ := heading?_eq_some hk
    have he : outcome (readEntry setup budget run n ⟨s, p, k.line, -1⟩
          ⟨name, vs, none, lineAfter (lineAfter line ts) [k]⟩)
          ⟨.fresh (es ++ es') around, .retain, log⟩ =
        (.ok (.primitive ⟨s, p, k.line, lineAfter line (ts ++ k :: vs)⟩ vs,
          ⟨name, [], none, lineAfter line (ts ++ k :: vs)⟩),
          ⟨.fresh (es ++ es') around, .retain, log⟩) := by
      obtain ⟨v, us, rfl⟩ := List.exists_cons_of_ne_nil hvs.nonempty
      rw [readEntry_value (hvs.unbraced v rfl) (hvs.nested.isMacro _ (by simp)), readPrimitive_eq,
        ← List.append_nil (v :: us), hvs.nested.readValue (by simp), readValue_nil]
      simp only [prepend, checked_eq hp]
      rw [List.append_nil, lineAfter_append]
      rfl
    rw [hts.reads, readEntries_of_readEntry hs he, readEntries_end, List.append_assoc]

end Statements

end Grammar

end CaseDict
