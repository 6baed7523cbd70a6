import CaseDict.Proofs.Acceptance
import CaseDict.Proofs.Distinct
import CaseDict.Proofs.Overwriting
/-! # Making entries

In whatever mode the statements of a body are read, their entries are made and placed one after the
other (`Grammar.Body.makes`): those of a dictionary are placed in a new dictionary, and what is made
in this way is placed around it. So a body that can be derived is read to its end unless an entry is
refused, and no entry is if the mode is not `error` (`Entry.exec_makeAll`) or the keywords are
distinct (`Entry.exec_makeAll_distinct`). -/

namespace CaseDict

open Expansion Statement

@[simp] theorem Failure.within_within (name : String) (f : Failure) :
    (f.within name).within name = f.within name := by cases f <;> rfl

namespace Entry

mutual

/-- Makes an entry as it is written. -/
def make : Entry → ReadM Entry
  | primitive h ts => return primitive h ts
  | dictionary h es => do
    let (_, made) ← inDictionary (makeAll es)
    return dictionary h made

/-- Makes entries and places each of them before the next is made. -/
def makeAll : List Entry → ReadM Unit
  | [] => return
  | e :: es => do
    let made ← e.make
    let _ ← Statement.place made
    makeAll es

end

/-- The entries of a dictionary after one was placed, which was not if it was refused. -/
def putIn (mode : InputMode) (own : List Entry) (e : Entry) : List Entry :=
  match e.place mode own with
  | .ok p => p.entries
  | .error _ => own

mutual

/-- What is made of an entry in a mode. -/
def settled (mode : InputMode) : Entry → Entry
  | primitive h ts => primitive h ts
  | dictionary h es => dictionary h (settledAll mode [] es)

/-- What is made of entries in a dictionary that has some already. -/
def settledAll (mode : InputMode) (own : List Entry) : List Entry → List Entry
  | [] => own
  | e :: es => settledAll mode (putIn mode own (e.settled mode)) es

end

theorem settledAll_append (mode : InputMode) (own es es' : List Entry) :
    settledAll mode own (es ++ es') = settledAll mode (settledAll mode own es) es' := by
  induction es generalizing own with
  | nil => rfl
  | cons e es ih => rw [List.cons_append, settledAll, settledAll, ih]

theorem notMem_concat {k : String} {own : List Entry} {e : Entry} (h : k ∉ own.map keyword)
    (he : k ≠ e.keyword) : k ∉ (own ++ [e]).map keyword := by
  rw [List.map_append, List.mem_append, not_or]
  exact ⟨h, by simpa using he⟩

@[simp] theorem keyword_settled (mode : InputMode) (e : Entry) :
    (e.settled mode).keyword = e.keyword := by
  cases e <;> simp [settled, keyword, head]

theorem settledAll_eq_foldl (mode : InputMode) (own es : List Entry) :
    settledAll mode own es = es.foldl (fun own e => putIn mode own (e.settled mode)) own := by
  induction es generalizing own with
  | nil => rfl
  | cons e es ih => rw [settledAll, ih, List.foldl_cons]

theorem putIn_new {mode : InputMode} {own : List Entry} {e : Entry}
    (h : e.keyword ∉ own.map keyword) : putIn mode own e = own ++ [e] := by
  rw [putIn, place_new (.inr (newest?_eq_none.mpr h))]

mutual

/-- What is made of an entry with distinct keywords is the entry. -/
theorem settled_distinct {mode : InputMode} : ∀ {e : Entry}, e.Distinct → e.settled mode = e
  | primitive .., _ => by rw [settled]
  | dictionary .., he => by
    rw [settled, settledAll_distinct (distinct_dictionary.mp he) fun _ _ => List.not_mem_nil,
      List.nil_append]

theorem settledAll_distinct {mode : InputMode} : ∀ {own es : List Entry}, AllDistinct es →
    (∀ e ∈ es, e.keyword ∉ own.map keyword) → settledAll mode own es = own ++ es
  | own, [], _, _ => by rw [settledAll, List.append_nil]
  | own, e :: es, hd, hnew => by
    obtain ⟨he, hes⟩ := List.forall_mem_cons.mp hd.each
    obtain ⟨hk, hks⟩ := List.nodup_cons.mp hd.keywords
    obtain ⟨hnew, hnews⟩ := List.forall_mem_cons.mp hnew
    rw [settledAll, settled_distinct he, putIn_new hnew, settledAll_distinct ⟨hks, hes⟩,
      List.append_assoc, List.singleton_append]
    exact fun x hx => notMem_concat (hnews x hx) fun heq => hk (heq ▸ List.mem_map_of_mem hx)

end

theorem putIn_retain (own : List Entry) (e : Entry) : putIn .retain own e = own ++ [e] := by
  rw [putIn, place_retain]

mutual

/-- What is made of an entry while redefinitions are retained is the entry. -/
theorem settled_retain : ∀ e : Entry, e.settled .retain = e
  | primitive .. => by rw [settled]
  | dictionary _ es => by rw [settled, settledAll_retain [] es, List.nil_append]

theorem settledAll_retain : ∀ own es : List Entry, settledAll .retain own es = own ++ es
  | own, [] => by rw [settledAll, List.append_nil]
  | own, e :: es => by
    rw [settledAll, settled_retain e, putIn_retain, settledAll_retain _ es, List.append_assoc,
      List.singleton_append]

end

/-! ### Making without a refusal -/

section Making

variable {s : ReadState}

theorem exec_place_putIn (hm : s.mode ≠ .error) (hs : s.scope.Carries fun _ => True) (e : Entry) :
    ∃ placed log, exec (Statement.place e) s =
      (.ok placed, ⟨s.scope.refill (putIn s.mode s.scope.entries e), s.mode, log⟩) := by
  obtain ⟨p, hp⟩ := place_ok hm s.scope.entries e
  rw [exec_place_carries hs, putIn, hp]
  exact ⟨_, _, rfl⟩

mutual

theorem exec_make {s : ReadState} (hm : s.mode ≠ .error) (hs : s.scope.Carries fun _ => True) :
    ∀ e : Entry, ∃ log, exec (make e) s = (.ok (e.settled s.mode), { s with log })
  | primitive h ts => by
    rw [make, settled]
    exact ⟨s.log, rfl⟩
  | dictionary h es => by
    obtain ⟨log, hes⟩ := exec_makeAll (s := { s with scope := s.scope.inner }) hm hs.inner es
    refine ⟨log, ?_⟩
    rw [make, exec_bind, exec_inDictionary, hes, settled]
    rfl

/-- Unless redefinitions are errors, all entries are placed. -/
theorem exec_makeAll {s : ReadState} (hm : s.mode ≠ .error) (hs : s.scope.Carries fun _ => True) :
    ∀ es : List Entry, ∃ log, exec (makeAll es) s =
      (.ok (), ⟨s.scope.refill (settledAll s.mode s.scope.entries es), s.mode, log⟩)
  | [] => by
    rw [makeAll, settledAll, hs.refill_entries]
    exact ⟨s.log, rfl⟩
  | e :: es => by
    obtain ⟨log, he⟩ := exec_make hm hs e
    obtain ⟨placed, log', hplace⟩ := exec_place_putIn (s := { s with log }) hm hs (e.settled s.mode)
    have hrefill : (s.scope.refill (putIn s.mode s.scope.entries (e.settled s.mode))).Carries
        fun _ => True := hs.refill fun _ _ _ _ => trivial
    obtain ⟨log'', hes⟩ := exec_makeAll (s := ⟨s.scope.refill _, s.mode, log'⟩) hm hrefill es
    refine ⟨log'', ?_⟩
    rw [makeAll, exec_bind, he]
    dsimp only at hplace hes ⊢
    rw [exec_bind, hplace]
    dsimp only
    rw [hes, hs.entries_refill, Scope.refill_refill, settledAll]

end

mutual

theorem exec_make_distinct {s : ReadState} : ∀ {e : Entry}, e.Distinct →
    (s.scope.Carries fun _ => True) → exec (make e) s = (.ok e, s)
  | primitive h ts, _, _ => by rw [make, exec_pure]
  | dictionary h es, he, hs => by
    have hes := exec_makeAll_distinct (s := { s with scope := s.scope.inner })
      (distinct_dictionary.mp he) hs.inner (fun _ _ => List.not_mem_nil)
    rw [make, exec_bind, exec_inDictionary, hes]
    rfl

/-- Entries with new keywords that are distinct are all placed, in whatever mode. -/
theorem exec_makeAll_distinct {s : ReadState} : ∀ {es : List Entry}, AllDistinct es →
    (s.scope.Carries fun _ => True) → (∀ e ∈ es, e.keyword ∉ s.scope.entries.map keyword) →
      exec (makeAll es) s = (.ok (), { s with scope := s.scope.refill (s.scope.entries ++ es) })
  | [], _, hs, _ => by rw [makeAll, List.append_nil, hs.refill_entries, exec_pure]
  | e :: es, hd, hs, hnew => by
    obtain ⟨he, hes⟩ := List.forall_mem_cons.mp hd.each
    obtain ⟨hk, hks⟩ := List.nodup_cons.mp hd.keywords
    obtain ⟨hnew, hnews⟩ := List.forall_mem_cons.mp hnew
    have hrefill : (s.scope.refill (s.scope.entries ++ [e])).Carries fun _ => True :=
      hs.refill fun _ _ _ _ => trivial
    rw [makeAll, exec_bind, exec_make_distinct he hs]
    dsimp only
    rw [exec_bind, exec_place_new hs (newest?_eq_none.mpr hnew)]
    dsimp only
    rw [exec_makeAll_distinct (s := ⟨s.scope.refill _, s.mode, s.log⟩) ⟨hks, hes⟩ hrefill,
      hs.entries_refill, Scope.refill_refill, List.append_assoc, List.singleton_append]
    intro x hx
    rw [hs.entries_refill]
    exact notMem_concat (hnews x hx) fun heq => hk (heq ▸ List.mem_map_of_mem hx)

end

end Making

end Entry

namespace Grammar

open Entry

section Statements

variable (setup : Setup) (budget : Nat) (run : DirectiveRunner) (name : String)
  (fault : Option Failure)

/-- Where the tokens stand before any others, reading them makes the entries. -/
def Makes (n : Nat) (ts : List Token) (es : List Entry) : Prop :=
  ∀ closing stops rest line s,
    outcome (readEntries setup budget run n closing stops ⟨name, ts ++ rest, fault, line⟩) s =
      match exec (makeAll es) s with
      | (.ok _, s') => outcome (readEntries setup budget run n closing stops
          ⟨name, rest, fault, lineAfter line ts⟩) s'
      | (.error f, s') => (.error (f.within name), s')

variable {setup budget run name fault} {n : Nat}

theorem Makes.nil : Makes setup budget run name fault n [] [] :=
  fun _ _ _ _ _ => rfl

theorem Makes.terminator {line : Int} :
    Makes setup budget run name fault n [⟨.terminator, line⟩] [] := by
  intro closing stops rest line' s
  rw [List.singleton_append, readEntries_terminator]
  rfl

theorem exec_makeAll_append (es es' : List Entry) (s : ReadState) :
    exec (makeAll (es ++ es')) s = match exec (makeAll es) s with
      | (.ok _, s') => exec (makeAll es') s'
      | (.error f, s') => (.error f, s') := by
  induction es generalizing s with
  | nil => rfl
  | cons e es ih =>
    rw [List.cons_append, makeAll, makeAll, exec_bind, exec_bind]
    rcases exec (make e) s with ⟨_ | made, s'⟩
    · rfl
    dsimp only
    rw [exec_bind, exec_bind]
    rcases exec (place made) s' with ⟨_ | placed, s''⟩
    · rfl
    exact ih s''

theorem Makes.append {ts us : List Token} {es es' : List Entry}
    (h : Makes setup budget run name fault n ts es)
    (h' : Makes setup budget run name fault n us es') :
    Makes setup budget run name fault n (ts ++ us) (es ++ es') := by
  intro closing stops rest line s
  rw [List.append_assoc, h, exec_makeAll_append]
  rcases exec (makeAll es) s with ⟨_ | _, s'⟩
  · rfl
  · dsimp only
    rw [h', lineAfter_append]

/-- A statement whose entry is made as it is read. -/
theorem makes_of_readEntry {t : Token} {k : String} {p : Bool} {ts : List Token} {e : Entry}
    (ht : t.symbol = keywordSymbol k p)
    (he : ∀ rest line s, outcome (readEntry setup budget run n ⟨k, p, t.line, -1⟩
        ⟨name, ts ++ rest, fault, line⟩) s =
      match exec (make e) s with
      | (.ok made, s') => (.ok (made, ⟨name, rest, fault, lineAfter line ts⟩), s')
      | (.error f, s') => (.error (f.within name), s')) :
    Makes setup budget run name fault n (t :: ts) [e] := by
  intro closing stops rest line s
  obtain ⟨h1, h2, h3⟩ := keywordSymbol_ne k p
  rw [List.cons_append, readEntries_statement (ht ▸ h1) (ht ▸ h2) (ht ▸ h3 stops),
    readStatement_keyword ht, he, makeAll, exec_bind]
  rcases exec (make e) s with ⟨_ | made, s'⟩
  · simp only [Failure.within_within]
  dsimp only
  rw [exec_bind]
  rcases exec (place made) s' with ⟨_ | placed, s''⟩ <;> rfl

theorem Makes.bare {k : Token} {line : Int} {h : Heading} (hk : heading? k line = some h) :
    Makes setup budget run name fault n [k, ⟨.terminator, line⟩] [.primitive h []] := by
  obtain ⟨s, p, hs, rfl, hp⟩ := heading?_eq_some hk
  refine makes_of_readEntry hs fun rest line' s => ?_
  rw [List.singleton_append, readEntry_value (by simp) (by rfl), readPrimitive_eq,
    readValue_terminator]
  simp only [checked_eq hp, make]
  rfl

theorem Makes.value {k : Token} {line : Int} {h : Heading} {vs : List Token}
    (hk : heading? k line = some h) (hvs : IsValue vs) :
    Makes setup budget run name fault n (k :: vs ++ [⟨.terminator, line⟩]) [.primitive h vs] := by
  obtain ⟨s, p, hs, rfl, hp⟩ := heading?_eq_some hk
  obtain ⟨v, us, rfl⟩ := List.exists_cons_of_ne_nil hvs.nonempty
  refine makes_of_readEntry hs fun rest line' s => ?_
  rw [List.append_eq, List.append_assoc, List.singleton_append, List.cons_append,
    readEntry_value (hvs.unbraced v rfl) (hvs.nested.isMacro _ (by simp)), readPrimitive_eq,
    ← List.cons_append, hvs.readValue]
  simp only [checked_eq hp, make]
  rfl

theorem Makes.dictionary {k : Token} {line line' : Int} {h : Heading} {ts : List Token}
    {es : List Entry} (hk : heading? k line' = some h) (hn : n < setup.settings.maxNesting)
    (hts : Makes setup budget run name fault (n + 1) ts es) :
    Makes setup budget run name fault n
      (k :: ⟨.opener .brace, line⟩ :: ts ++ [⟨.closer .brace, line'⟩]) [.dictionary h es] := by
  obtain ⟨s, p, hs, rfl, hp⟩ := heading?_eq_some hk
  refine makes_of_readEntry hs fun rest line'' s => ?_
  rw [List.append_eq, List.append_assoc, List.cons_append, List.singleton_append,
    readEntry_brace hn, checked_eq hp]
  dsimp only
  rw [hts, make, exec_bind, exec_inDictionary]
  rcases exec (makeAll es) { s with scope := s.scope.inner } with ⟨_ | _, s'⟩
  · rfl
  dsimp only
  rw [readEntries_brace, ← lineAfter_append, ← lineAfter_append]
  rfl

mutual

theorem Statement.makes {n : Nat} {ts : List Token} {e : Entry} :
    Statement setup.settings.maxNesting n ts e → Makes setup budget run name fault n ts [e]
  | .bare hk => .bare hk
  | .value hk hvs => .value hk hvs
  | .dictionary hk hn hts => .dictionary hk hn hts.makes

/-- **Reading a derived body makes its entries.** -/
theorem Body.makes {n : Nat} {ts : List Token} {es : List Entry} :
    Body setup.settings.maxNesting n ts es → Makes setup budget run name fault n ts es
  | .nil => .nil
  | .spare hts => Makes.terminator.append hts.makes
  | .cons hss hts => hss.makes.append hts.makes

end

/-- The last statement of a document is read to the end of the input and not to a terminator. -/
theorem Body.makes_last {n : Nat} {ts vs : List Token} {es : List Entry} {k : Token} {x : String}
    {p : Bool} {line line' : Int} (hts : Body setup.settings.maxNesting n ts es)
    (hk : k.symbol = keywordSymbol x p)
    (he : ∀ s, outcome (readEntry setup budget run n ⟨x, p, k.line, -1⟩
        ⟨name, vs, none, lineAfter (lineAfter line ts) [k]⟩) s =
      (.ok (.primitive ⟨x, p, k.line, line'⟩ vs, ⟨name, [], none, lineAfter line (ts ++ k :: vs)⟩),
        s)) (stops : List String) (s : ReadState) :
    outcome (readEntries setup budget run n none stops ⟨name, ts ++ k :: vs, none, line⟩) s =
      match exec (makeAll (es ++ [.primitive ⟨x, p, k.line, line'⟩ vs])) s with
      | (.ok _, s') => (.ok (none, ⟨name, [], none, lineAfter line (ts ++ k :: vs)⟩), s')
      | (.error f, s') => (.error (f.within name), s') := by
  obtain ⟨h1, h2, h3⟩ := keywordSymbol_ne x p
  rw [hts.makes none stops (k :: vs) line s, exec_makeAll_append]
  rcases exec (makeAll es) s with ⟨_ | _, s'⟩
  · rfl
  dsimp only
  rw [readEntries_statement (hk ▸ h1) (hk ▸ h2) (hk ▸ h3 stops), readStatement_keyword hk, he,
    makeAll, make, exec_bind, exec_pure]
  dsimp only
  rw [exec_bind]
  rcases exec (place _) s' with ⟨_ | placed, s''⟩
  · rfl
  dsimp only
  rw [readEntries_end]
  rfl

/-- **Reading a document makes its entries**, and comes to the end. -/
theorem Document.makes {n : Nat} {line : Int} {ts : List Token} {es : List Entry}
    (h : Document setup.settings.maxNesting n line ts es) (stops : List String) (s : ReadState) :
    outcome (readEntries setup budget run n none stops ⟨name, ts, none, line⟩) s =
      match exec (makeAll es) s with
      | (.ok _, s') => (.ok (none, ⟨name, [], none, lineAfter line ts⟩), s')
      | (.error f, s') => (.error (f.within name), s') := by
  cases h with
  | closed hts =>
    rw [← List.append_nil ts, hts.makes, List.append_nil]
    simp only [readEntries_end]
  | bare hts hk =>
    obtain ⟨x, p, hs, rfl, hp⟩ := heading?_eq_some hk
    refine hts.makes_last hs (fun s => ?_) stops s
    rw [readEntry_end, checked_eq hp, lineAfter_append]
    rfl
  | value hts hk hvs =>
    obtain ⟨x, p, hs, rfl, hp⟩ := heading?_eq_some hk
    obtain ⟨v, us, rfl⟩ := List.exists_cons_of_ne_nil hvs.nonempty
    refine hts.makes_last hs (fun s => ?_) stops s
    rw [readEntry_value (hvs.unbraced v rfl) (hvs.nested.isMacro _ (by simp)), readPrimitive_eq,
      ← List.append_nil (v :: us), hvs.nested.readValue (by simp), readValue_nil]
    simp only [prepend, checked_eq hp]
    rw [List.append_nil, lineAfter_append]
    rfl

/-- What is read of a document, unless redefinitions are errors. -/
theorem Document.read_settled (hmode : setup.settings.mode ≠ .error) (name : String)
    {ts : List Token} {es : List Entry} (h : Document setup.settings.maxNesting 0 0 ts es) :
    (Reader.read setup (.ofTokens name ts)).1 =
      .ok (.dictionary ⟨name, false, 1, lineAfter 0 ts⟩ (settledAll setup.settings.mode [] es)) := by
  obtain ⟨log, hmake⟩ := exec_makeAll (s := ⟨.fresh [] [], setup.settings.mode, []⟩) hmode
    Scope.carries_nil es
  rw [read_eq, Reader.entries, Input.ofTokens, h.makes, hmake]
  rfl

end Statements

end Grammar

end CaseDict
