import CaseDict.Proofs.Completeness
/-! # What is read is derived

What the reader accepts among tokens without references and directives is derived from the grammar,
and what it refuses it refuses as expected. `ValueRead`, `EntryRead` and `EntriesRead` say what can
come of reading a value, an entry and entries; the proof is by induction on the number of tokens. -/

namespace CaseDict

open Expansion Statement

namespace Grammar

/-! ### Values -/

/-- The tokens close the open brackets, and what stands outside of them is a value's. -/
def Closes : List Opening → List Token → Prop
  | [], ts => Nested false ts
  | o :: outer, ts => ∃ us line vs, ts = us ++ ⟨.closer o.bracket, line⟩ :: vs ∧ Nested true us ∧
      Closes outer vs

theorem Closes.atom {opened : List Opening} {t : Token} {ts : List Token} {inside : Bool}
    (ht : t.symbol.isAtom inside) (ho : inside = true → opened ≠ []) (h : Closes opened ts) :
    Closes opened (t :: ts) := by
  cases opened with
  | nil => exact Nested.atom (isAtom_of_isAtom ht fun hi => absurd rfl (ho hi)) h
  | cons o outer =>
    obtain ⟨us, line, vs, rfl, hus, hvs⟩ := h
    exact ⟨t :: us, line, vs, rfl, .atom (isAtom_of_isAtom ht fun _ => rfl) hus, hvs⟩

theorem Closes.opener {opened : List Opening} {b : Bracket} {line line' : Int} {ts : List Token}
    (h : Closes (⟨b, line⟩ :: opened) ts) : Closes opened (⟨.opener b, line'⟩ :: ts) := by
  obtain ⟨us, l, vs, rfl, hus, hvs⟩ := h
  cases opened with
  | nil => exact .group hus hvs
  | cons o outer =>
    obtain ⟨us', l', vs', rfl, hus', hvs'⟩ := hvs
    refine ⟨⟨.opener b, line'⟩ :: us ++ ⟨.closer b, l⟩ :: us', l', vs', ?_, .group hus hus', hvs'⟩
    simp

theorem Closes.closer {o : Opening} {opened : List Opening} {line : Int} {ts : List Token}
    (h : Closes opened ts) : Closes (o :: opened) (⟨.closer o.bracket, line⟩ :: ts) :=
  ⟨[], line, ts, rfl, .nil, h⟩

/-- Nested tokens are passed over. -/
theorem Closes.nested {opened : List Opening} {ts us : List Token} (hts : Nested false ts)
    (h : Closes opened us) : Closes opened (ts ++ us) := by
  cases opened with
  | nil => exact hts.append h
  | cons o outer =>
    obtain ⟨us, line, vs, rfl, hus, hvs⟩ := h
    exact ⟨ts ++ us, line, vs, (List.append_assoc ..).symm, hts.within.append hus, hvs⟩

/-- A token that stands for itself and does not end the value. -/
theorem Closes.track {opened opened' : List Opening} {t : Token} {ts : List Token} {name : String}
    (ht : track opened t name = .ok opened') (hm : t.symbol.isMacro = false)
    (hend : ¬(t.symbol = .terminator ∧ opened = [])) (h : Closes opened' ts) :
    Closes opened (t :: ts) := by
  obtain ⟨y, line⟩ := t
  cases y with
  | opener b =>
    obtain rfl := Except.ok.inj ht
    exact h.opener
  | closer b =>
    cases opened with
    | nil => contradiction
    | cons o outer =>
      simp only [Expansion.track, close] at ht
      split at ht
      · next hb =>
        obtain rfl := Except.ok.inj ht
        exact hb ▸ h.closer
      · contradiction
  | reference | directive => contradiction
  | terminator =>
    obtain rfl := Except.ok.inj ht
    exact h.atom (show Symbol.isAtom true .terminator from rfl) fun _ ho => hend ⟨rfl, ho⟩
  | word | quoted | number | comma =>
    obtain rfl := Except.ok.inj ht
    exact h.atom (show Symbol.isAtom false _ from rfl) (by simp)

theorem isSyntactic_of_track {opened : List Opening} {t : Token} {name : String} {f : Failure}
    (ht : track opened t name = .error f) : f.isSyntactic := by
  unfold Expansion.track close at ht
  split at ht
  · contradiction
  · split at ht
    · cases ht
      rfl
    · split at ht
      · contradiction
      · cases ht
        rfl
  · contradiction

section Values

variable {name : String} {log : List Event}

/-- What comes of reading a value: an error of syntax, or tokens that close the open brackets, up to
the end of the input or a terminator. -/
inductive ValueRead (name : String) (log : List Event) (opened : List Opening) (line : Int) :
    List Token → Except Failure ((List Token × Int) × Input) × List Event → Prop
  | failed {ts : List Token} {f : Failure} (hf : f.isSyntactic) :
      ValueRead name log opened line ts (.error f, log)
  | ended {ts : List Token} (h : Closes opened ts) :
      ValueRead name log opened line ts
        (.ok ((ts, lineAfter line ts), ⟨name, [], none, lineAfter line ts⟩), log)
  | terminated {ts : List Token} {line' : Int} {rest : List Token} (h : Closes opened ts) :
      ValueRead name log opened line (ts ++ ⟨.terminator, line'⟩ :: rest)
        (.ok ((ts, line'), ⟨name, rest, none, lineAfter line (ts ++ [⟨.terminator, line'⟩])⟩), log)

theorem ValueRead.prepend {opened opened' : List Opening} {t : Token} {ts : List Token}
    {line : Int} {r : Except Failure ((List Token × Int) × Input) × List Event}
    (ht : ∀ us, Closes opened us → Closes opened' (t :: us))
    (h : ValueRead name log opened (lineAfter line [t]) ts r) :
    ValueRead name log opened' line (t :: ts) (prepend [t] r) := by
  cases h with
  | failed hf => exact .failed hf
  | ended h => exact .ended (ht _ h)
  | terminated h => exact .terminated (ht _ h)

theorem readValue_sound (reference : Token → String → ExpandM (List Token))
    (inline : Token → (i : Input) → ExpandM (Taken (List Token) i)) {ts : List Token}
    (hm : ∀ t ∈ ts, t.symbol.isMacro = false)
    (opened : List Opening) (line : Int) :
    ValueRead name log opened line ts
      (outcome (readValue reference inline opened ⟨name, ts, none, line⟩) log) := by
  induction ts generalizing opened line with
  | nil =>
    cases opened with
    | nil => rw [readValue_nil]; exact .ended .nil
    | cons o outer => rw [readValue_unclosed]; exact .failed rfl
  | cons t ts ih =>
    have hts := fun t h => hm t (List.mem_cons_of_mem _ h)
    by_cases hend : t.symbol = .terminator ∧ opened = []
    · obtain ⟨y, line'⟩ := t
      obtain ⟨rfl, rfl⟩ := hend
      rw [readValue_terminator]
      exact @ValueRead.terminated name log _ line [] line' ts Nested.nil
    · have hmt := hm t (by simp)
      rw [readValue_cons hmt fun h ho => hend ⟨h, ho⟩]
      cases htr : track opened t name with
      | error f => exact .failed (isSyntactic_of_track htr)
      | ok opened' => exact (ih hts _ _).prepend fun us => Closes.track htr hmt hend

end Values

/-! ### Statements -/

theorem heading?_of_keyword {t : Token} {k : String} {p : Bool} (ht : t.symbol = keywordSymbol k p)
    (hp : p = true → Pattern.fault? k = none) (line : Int) :
    heading? t line = some ⟨k, p, t.line, line⟩ := by
  cases p <;> simp_all [heading?, keywordSymbol]

/-- A keyword is taken as it is, is no regular expression, or is rejected for another reason. -/
theorem checked_cases (k : String) (p : Bool) (line : Int) :
    (p = true → Pattern.fault? k = none) ∨
      ∃ f, (∀ line', Heading.checked ⟨k, p, line, line'⟩ = .error f) ∧
        (f.isSyntactic ∨ ∃ why, f = .pattern why ∧ p = true ∧ Pattern.fault? k = some why ∧
          why ≠ .malformed) := by
  cases p with
  | false => exact .inl (by simp)
  | true =>
    cases hf : Pattern.fault? k with
    | none => exact .inl fun _ => rfl
    | some why =>
      refine .inr ?_
      by_cases hw : why = .malformed
      · subst hw
        exact ⟨_, fun _ => by simp only [Heading.checked, Heading.failure?, hf]; rfl, .inl rfl⟩
      · refine ⟨.pattern why, fun _ => ?_, .inr ⟨why, rfl, rfl, rfl, hw⟩⟩
        simp only [Heading.checked, Heading.failure?, hf]
        cases why <;> first | contradiction | rfl

section Statements

variable {setup : Setup} {budget : Nat} {run : DirectiveRunner} {name : String}

/-- A failure that is one of syntax, or of a keyword that no error of syntax describes. -/
def Expected (limit : Int) (n : Nat) (ts : List Token) (f : Failure) : Prop :=
  f.isSyntactic ∨ ∃ why, f = .pattern why ∧ Rejects limit why n ts

/-- What comes of reading the entry after the keyword `k`: a failure, the last statement of the
input, or a statement. -/
inductive EntryRead (limit : Int) (n : Nat) (name : String) (line : Int) (k : Token)
    (s : ReadState) : List Token → Except Failure (Entry × Input) × ReadState → Prop
  | failed {ts : List Token} {f : Failure} {s' : ReadState} (hf : Expected limit n (k :: ts) f) :
      EntryRead limit n name line k s ts (.error f, s')
  | last {ts : List Token} {e : Entry} (h : Document limit n line (k :: ts) [e]) :
      EntryRead limit n name line k s ts
        (.ok (e, ⟨name, [], none, lineAfter line (k :: ts)⟩), s)
  | statement {ts rest : List Token} {e : Entry} (h : Statement limit n (k :: ts) e) :
      EntryRead limit n name line k s (ts ++ rest)
        (.ok (e, ⟨name, rest, none, lineAfter line (k :: ts)⟩), s)

/-- What comes of reading entries: a failure, a whole document, or a body and the brace after it. -/
inductive EntriesRead (limit : Int) (n : Nat) (name : String) (line : Int) (es : List Entry)
    (around : List (Frame Entry)) (log : List Event) : Option Heading → List Token →
    Except Failure (Option Token × Input) × ReadState → Prop
  | failed {closing : Option Heading} {ts : List Token} {f : Failure} {s : ReadState}
      (hf : Expected limit n ts f) :
      EntriesRead limit n name line es around log closing ts (.error f, s)
  | document {ts : List Token} {es' : List Entry} (h : Document limit n line ts es') :
      EntriesRead limit n name line es around log none ts
        (.ok (none, ⟨name, [], none, lineAfter line ts⟩),
          ⟨.fresh (es ++ es') around, .retain, log⟩)
  | dictionary {h : Heading} {ts rest : List Token} {es' : List Entry} {line' : Int}
      (hts : Body limit n ts es') :
      EntriesRead limit n name line es around log (some h) (ts ++ ⟨.closer .brace, line'⟩ :: rest)
        (.ok (some ⟨.closer .brace, line'⟩,
          ⟨name, rest, none, lineAfter line (ts ++ [⟨.closer .brace, line'⟩])⟩),
          ⟨.fresh (es ++ es') around, .retain, log⟩)

theorem EntryRead.statement_append {limit : Int} {n : Nat} {line : Int} {k : Token} {s : ReadState}
    {ss ts rest : List Token} {e : Entry} (h : Statement limit n (k :: ss) e)
    (hts : ts = ss ++ rest) : EntryRead limit n name line k s ts
      (.ok (e, ⟨name, rest, none, lineAfter line (k :: ss)⟩), s) := hts ▸ .statement h

theorem EntriesRead.after {limit : Int} {n : Nat} {line : Int} {es es' : List Entry}
    {around : List (Frame Entry)} {log : List Event} {closing : Option Heading} {ts us : List Token}
    {r : Except Failure (Option Token × Input) × ReadState} (hts : Body limit n ts es')
    (h : EntriesRead limit n name (lineAfter line ts) (es ++ es') around log closing us r) :
    EntriesRead limit n name line es around log closing (ts ++ us) r := by
  cases h with
  | failed hf => exact .failed (hf.imp_right fun ⟨why, h, hr⟩ => ⟨why, h, .after hts hr⟩)
  | document h =>
    rw [List.append_assoc, ← lineAfter_append]
    exact .document (hts.document h)
  | dictionary h =>
    rw [List.append_assoc, ← List.append_assoc, ← lineAfter_append, ← List.append_assoc]
    exact .dictionary (hts.append h)

variable (setup budget run name) in
/-- The entries of inputs with fewer than `size` tokens are read soundly. -/
def SoundBelow (size : Nat) : Prop :=
  ∀ (ts : List Token), ts.length < size → (∀ t ∈ ts, t.symbol.isMacro = false) →
    ∀ n closing line es around log,
      EntriesRead setup.settings.maxNesting n name line es around log closing ts
        (outcome (readEntries setup budget run n closing [] ⟨name, ts, none, line⟩)
          ⟨.fresh es around, .retain, log⟩)

/-- A refused keyword fails as expected, if it comes to that. -/
theorem Expected.of_keyword {limit : Int} {n : Nat} {t : Token} {k : String} {p : Bool}
    {ts : List Token} {f : Failure} (ht : t.symbol = keywordSymbol k p)
    (hf : f.isSyntactic ∨ ∃ why, f = .pattern why ∧ p = true ∧ Pattern.fault? k = some why ∧
      why ≠ .malformed) (hts : Follows limit n ts) : Expected limit n (t :: ts) f := by
  refine hf.imp_right fun ⟨why, hf, hp, hk, hw⟩ => ⟨why, hf, ?_⟩
  obtain ⟨y, l⟩ := t
  subst hp
  obtain rfl : y = .quoted k := ht
  exact .here hk hw hts

section Entries

variable {t : Token} {k : String} {p : Bool} (ht : t.symbol = keywordSymbol k p)

include ht

theorem readEntry_brace_sound {l : Int} {ts : List Token}
    (hsound : SoundBelow setup budget run name (ts.length + 1))
    (hm : ∀ t ∈ ts, t.symbol.isMacro = false) (n : Nat) (line : Int) (es : List Entry)
    (around : List (Frame Entry)) (log : List Event) :
    EntryRead setup.settings.maxNesting n name line t ⟨.fresh es around, .retain, log⟩
      (⟨.opener .brace, l⟩ :: ts)
      (outcome (readEntry setup budget run n ⟨k, p, t.line, -1⟩
        ⟨name, ⟨.opener .brace, l⟩ :: ts, none, lineAfter line [t]⟩)
        ⟨.fresh es around, .retain, log⟩) := by
  by_cases hn : n < setup.settings.maxNesting
  · rw [readEntry_brace hn]
    rcases checked_cases k p t.line with hp | ⟨f, hf, hwhy⟩
    · rw [checked_eq hp]
      have h := hsound ts (Nat.lt_succ_self _) hm (n + 1) (some ⟨k, p, t.line, -1⟩)
        (lineAfter (lineAfter line [t]) [⟨.opener .brace, l⟩]) []
        (Scope.frames (.fresh es around)) log
      dsimp only [Scope.inner]
      generalize outcome (readEntries setup budget run (n + 1) _ [] _) _ = r at h ⊢
      cases h with
      | failed hf =>
        exact .failed (hf.imp_right fun ⟨why, hw, hr⟩ =>
          ⟨why, hw, .inside (heading?_of_keyword ht hp 0) hn hr⟩)
      | @dictionary _ us rest es' l' hus =>
        exact .statement_append (.dictionary (heading?_of_keyword ht hp l') hn hus) (by simp)
    · rw [hf]
      exact .failed (.of_keyword ht hwhy (.brace hn))
  · rw [readEntry_tooDeep (Int.not_lt.mp hn)]
    exact .failed (.inl rfl)

theorem readEntry_value_sound {v : Token} {vs : List Token} (hv : v.symbol ≠ .opener .brace)
    (hm : ∀ t ∈ v :: vs, t.symbol.isMacro = false) (n : Nat) (line : Int) (es : List Entry)
    (around : List (Frame Entry)) (log : List Event) :
    EntryRead setup.settings.maxNesting n name line t ⟨.fresh es around, .retain, log⟩ (v :: vs)
      (outcome (readEntry setup budget run n ⟨k, p, t.line, -1⟩
        ⟨name, v :: vs, none, lineAfter line [t]⟩) ⟨.fresh es around, .retain, log⟩) := by
  rw [readEntry_value hv (hm v (by simp)), readPrimitive_eq]
  have h : ValueRead name log [] (lineAfter line [t]) (v :: vs) _ :=
    readValue_sound (reference ⟨setup, Scope.frames (.fresh es around)⟩ budget)
      (inline ⟨setup, Scope.frames (.fresh es around)⟩ budget) hm [] (lineAfter line [t])
  dsimp only
  generalize outcome (readValue _ _ [] _) _ = r at h ⊢
  generalize hts : v :: vs = ts at h ⊢
  cases h with
  | failed hf => exact .failed (.inl hf)
  | ended h =>
    have hvs : IsValue ts := ⟨by simp [← hts], by simpa [← hts] using hv, h⟩
    rcases checked_cases k p t.line with hp | ⟨f, hf, hwhy⟩
    · simp only [checked_eq hp]
      exact .last (.value .nil (heading?_of_keyword ht hp _) hvs)
    · simp only [hf]
      exact .failed (.of_keyword ht hwhy (.lastValue hvs))
  | @terminated us l rest h =>
    have hvs : us ≠ [] → IsValue us := fun hne => by
      obtain ⟨u, us, rfl⟩ := List.exists_cons_of_ne_nil hne
      obtain ⟨rfl, -⟩ := List.cons.inj hts
      exact ⟨by simp, by simpa using hv, h⟩
    rcases checked_cases k p t.line with hp | ⟨f, hf, hwhy⟩
    · simp only [checked_eq hp]
      have hs : Statement setup.settings.maxNesting n (t :: us ++ [⟨.terminator, l⟩])
          (.primitive ⟨k, p, t.line, l⟩ us) := by
        rcases us with _ | ⟨u, us⟩
        · exact .bare (heading?_of_keyword ht hp l)
        · exact .value (heading?_of_keyword ht hp l) (hvs (by simp))
      exact .statement_append hs (by simp)
    · simp only [hf]
      refine .failed (.of_keyword ht hwhy ?_)
      rcases us with _ | ⟨u, us⟩
      · exact .terminator
      · exact .value (hvs (by simp))

theorem readEntry_sound {ts : List Token} (hsound : SoundBelow setup budget run name ts.length)
    (hm : ∀ t ∈ ts, t.symbol.isMacro = false) (n : Nat) (line : Int) (es : List Entry)
    (around : List (Frame Entry)) (log : List Event) :
    EntryRead setup.settings.maxNesting n name line t ⟨.fresh es around, .retain, log⟩ ts
      (outcome (readEntry setup budget run n ⟨k, p, t.line, -1⟩
        ⟨name, ts, none, lineAfter line [t]⟩) ⟨.fresh es around, .retain, log⟩) := by
  rcases ts with _ | ⟨v, vs⟩
  · rw [readEntry_end]
    rcases checked_cases k p t.line with hp | ⟨f, hf, hwhy⟩
    · simp only [checked_eq hp]
      exact .last (.bare .nil (heading?_of_keyword ht hp _))
    · simp only [hf]
      exact .failed (.of_keyword ht hwhy .ended)
  by_cases hv : v.symbol = .opener .brace
  · obtain ⟨y, l⟩ := v
    obtain rfl : y = .opener .brace := hv
    exact readEntry_brace_sound ht hsound (fun u hu => hm u (List.mem_cons_of_mem _ hu)) n line es
      around log
  · exact readEntry_value_sound ht hv hm n line es around log

end Entries

theorem isDirectiveIn_of_isMacro {s : Symbol} (h : s.isMacro = false) (names : List String) :
    s.isDirectiveIn names = false := by
  cases s <;> first | rfl | contradiction

theorem entries_sound (size : Nat) : SoundBelow setup budget run name size := by
  induction size with
  | zero => intro ts h; omega
  | succ size ih =>
    intro ts hlt hm n closing line es around log
    rcases ts with _ | ⟨t, ts⟩
    · cases closing with
      | none =>
        rw [readEntries_end]
        have hd : Document setup.settings.maxNesting n line [] [] := .closed .nil
        have h := @EntriesRead.document _ n name line es around log [] [] hd
        rwa [List.append_nil] at h
      | some h => rw [readEntries_unclosed]; exact .failed (.inl rfl)
    have hm' := fun t h => hm t (List.mem_cons_of_mem _ h)
    by_cases hbrace : t.symbol = .closer .brace
    · obtain ⟨y, l⟩ := t
      obtain rfl : y = .closer .brace := hbrace
      cases closing with
      | none => rw [readEntries_strayBrace]; exact .failed (.inl rfl)
      | some h =>
        rw [readEntries_brace]
        have hb : Body setup.settings.maxNesting n [] [] := .nil
        have h := @EntriesRead.dictionary _ n name line es around log h [] ts [] l hb
        rwa [List.append_nil] at h
    by_cases hterm : t.symbol = .terminator
    · obtain ⟨y, l⟩ := t
      obtain rfl : y = .terminator := hterm
      rw [readEntries_terminator]
      have hb : Body setup.settings.maxNesting n [⟨.terminator, l⟩] [] := .spare .nil
      refine EntriesRead.after hb ?_
      rw [List.append_nil]
      exact ih ts (by simpa using hlt) hm' n closing _ es around log
    by_cases hkey : ∃ k p, t.symbol = keywordSymbol k p
    · obtain ⟨k, p, ht⟩ := hkey
      have h := readEntry_sound ht (fun us hus => ih us (by simp at hlt; omega)) hm' n line es
        around log
      rw [readEntries_statement hbrace hterm (ht ▸ (keywordSymbol_ne k p).2.2 []),
        readStatement_keyword ht]
      generalize outcome (readEntry setup budget run n _ _) _ = r at h ⊢
      cases h with
      | failed hf =>
        exact .failed (hf.imp (by simp) fun ⟨why, hw, hr⟩ => ⟨why, by rw [hw]; rfl, hr⟩)
      | @last _ e h =>
        simp only [place_retain]
        cases closing with
        | none => rw [readEntries_end]; exact .document h
        | some h => rw [readEntries_unclosed]; exact .failed (.inl rfl)
      | @statement us rest e h =>
        simp only [place_retain]
        rw [← List.cons_append]
        refine EntriesRead.after h.body ?_
        refine ih rest ?_ (fun u hu => hm' u (List.mem_append_right _ hu)) n closing _ _ around log
        simp only [List.length_cons, List.length_append] at hlt
        omega
    · have hmt := hm t (by simp)
      rw [readEntries_statement hbrace hterm (isDirectiveIn_of_isMacro hmt []),
        readStatement_stray (fun k p h => hkey ⟨k, p, h⟩) hmt]
      exact .failed (.inl rfl)

/-! ### Rejected keywords -/

theorem checked_eq_error {k : String} {why : Pattern.Fault} (hk : Pattern.fault? k = some why)
    (hw : why ≠ .malformed) (line line' : Int) :
    Heading.checked ⟨k, true, line, line'⟩ = .error (.pattern why) := by
  simp only [Heading.checked, Heading.failure?, hk]
  cases why <;> first | contradiction | rfl

theorem readEntry_rejected {k : String} {why : Pattern.Fault} (hk : Pattern.fault? k = some why)
    (hw : why ≠ .malformed) {n : Nat} {ts : List Token}
    (hts : Follows setup.settings.maxNesting n ts) (startLine line : Int) (s : ReadState) :
    outcome (readEntry setup budget run n ⟨k, true, startLine, -1⟩ ⟨name, ts, none, line⟩) s =
      (.error (.pattern why), s) := by
  have hc := checked_eq_error hk hw startLine
  cases hts with
  | ended =>
    rw [readEntry_end, hc]
    rfl
  | terminator =>
    rw [readEntry_value (by simp) (by rfl), readPrimitive_eq, readValue_terminator]
    simp only [hc]
    rfl
  | brace hn => rw [readEntry_brace hn, hc]
  | lastValue hvs =>
    obtain ⟨v, us, rfl⟩ := List.exists_cons_of_ne_nil hvs.nonempty
    rw [readEntry_value (hvs.unbraced v rfl) (hvs.nested.isMacro _ (by simp)), readPrimitive_eq,
      ← List.append_nil (v :: us), hvs.nested.readValue (by simp), readValue_nil]
    simp only [prepend, hc]
    rfl
  | value hvs =>
    obtain ⟨v, us, rfl⟩ := List.exists_cons_of_ne_nil hvs.nonempty
    rw [List.cons_append, readEntry_value (hvs.unbraced v rfl) (hvs.nested.isMacro _ (by simp)),
      readPrimitive_eq, ← List.cons_append, hvs.readValue]
    simp only [hc]
    rfl

theorem Rejects.error {why : Pattern.Fault} {n : Nat} {ts : List Token}
    (h : Rejects setup.settings.maxNesting why n ts) (closing : Option Heading) (line : Int)
    (es : List Entry) (around : List (Frame Entry)) (log : List Event) :
    (outcome (readEntries setup budget run n closing [] ⟨name, ts, none, line⟩)
      ⟨.fresh es around, .retain, log⟩).1 = .error (.pattern why) := by
  induction h generalizing closing line es around log with
  | @here n k l ts hk hw hts =>
    have ht : Token.symbol ⟨.quoted k, l⟩ = keywordSymbol k true := rfl
    rw [readEntries_statement (by simp) (by simp) rfl, readStatement_keyword ht,
      readEntry_rejected hk hw hts]
    rfl
  | @inside n k l l' h ts hk hn hts ih =>
    obtain ⟨s, p, hs, rfl, hp⟩ := heading?_eq_some hk
    obtain ⟨h1, h2, h3⟩ := keywordSymbol_ne s p
    rw [readEntries_statement (hs ▸ h1) (hs ▸ h2) (hs ▸ h3 []), readStatement_keyword hs,
      readEntry_brace hn, checked_eq hp]
    have := ih (some ⟨s, p, k.line, -1⟩) (lineAfter (lineAfter line [k]) [⟨.opener .brace, l⟩]) []
      (Scope.frames (.fresh es around)) log
    dsimp only [Scope.inner]
    generalize outcome (readEntries setup budget run (n + 1) _ [] _) _ = r at this ⊢
    obtain ⟨r, s'⟩ := r
    obtain rfl : r = _ := this
    rfl
  | after hts hus ih => rw [hts.reads]; exact ih ..

end Statements

end Grammar

end CaseDict
