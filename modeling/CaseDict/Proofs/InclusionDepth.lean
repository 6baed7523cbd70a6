import CaseDict.Proofs.DepthBound
import CaseDict.Proofs.ExpansionDepth
import CaseDict.Proofs.Inclusion
import CaseDict.Proofs.Making
/-! # How deep files include one another

What a text takes to be read is a number of files inside of one another (`Included`). Its entries
are read if that number is within the limit of expansion; if it is not, the read fails with an
overflow (`Included.reads`). -/

namespace CaseDict

open Expansion Statement Entry Grammar

/-- From a text of the name `source` the name leads to the file `p`, in whatever dictionary the
inclusion stands. -/
def Setup.Finds (setup : Setup) (source name : String) (p : Path) : Prop :=
  ∀ frames log, ∃ places log' log'',
    exec (candidates ⟨setup, frames⟩ source (.ofString name)) log = (.ok places, log') ∧
      exec (firstFile ⟨setup, frames⟩ places) log' = (.ok (some p), log'')

/-- The tokens stand in the text `source` at a level of nesting for the entries, of which some are
in files: the inclusions are so many levels deep. A chain of `n` files, of which each but the last
includes the next, takes `n`. -/
inductive Included (setup : Setup) : (source : String) → (level : Nat) → Nat → List Token →
    List Entry → Prop
  | literal {source : String} {n : Nat} {ts : List Token} {es : List Entry}
      (h : Body setup.settings.maxNesting n ts es) : Included setup source n 0 ts es
  | file {source name text : String} {n d : Nat} {p : Path} {l : Int} {t : Token}
      {ts us : List Token} {es es' : List Entry}
      (ht : t.symbol = .quoted name ∨ t.symbol = .word name)
      (hname : '$' ∉ name.toList) (hfinds : setup.Finds source name p)
      (htext : setup.files.readText p = .ok text)
      (hlex : Lexer.lex 1 text.toList = ⟨ts ++ us, none⟩) (hts : Included setup p.text n d ts es)
      (hus : Document setup.settings.maxNesting n (lineAfter 0 ts) us es') :
      Included setup source n (d + 1) [⟨.directive "include", l⟩, t] (es ++ es')
  | dictionary {source : String} {n d : Nat} {k : Token} {line line' : Int} {h : Heading}
      {ts : List Token} {es : List Entry} (hk : heading? k line' = some h)
      (hn : n < setup.settings.maxNesting) (hts : Included setup source (n + 1) d ts es) :
      Included setup source n d (k :: ⟨.opener .brace, line⟩ :: ts ++ [⟨.closer .brace, line'⟩])
        [.dictionary h es]
  | append {source : String} {n d d' : Nat} {ts us : List Token} {es es' : List Entry}
      (hts : Included setup source n d ts es) (hus : Included setup source n d' us es') :
      Included setup source n (max d d') (ts ++ us) (es ++ es')

/-! ### Placing what an inclusion brings -/

namespace Entry

/-- The entries can be placed in whatever mode: their keywords are new and distinct. -/
structure Fresh (own es : List Entry) : Prop where
  distinct : AllDistinct es
  new : ∀ e ∈ es, e.keyword ∉ own.map keyword

variable {own es es' : List Entry}

theorem Fresh.left (h : Fresh own (es ++ es')) : Fresh own es where
  distinct := ⟨(List.nodup_append.mp (List.map_append ▸ h.distinct.keywords)).1,
    fun e he => h.distinct.each e (List.mem_append_left _ he)⟩
  new e he := h.new e (List.mem_append_left _ he)

theorem Fresh.right (h : Fresh own (es ++ es')) : Fresh (own ++ es) es' := by
  obtain ⟨-, hkeys, hapart⟩ := List.nodup_append.mp (List.map_append ▸ h.distinct.keywords)
  refine ⟨⟨hkeys, fun e he => h.distinct.each e (List.mem_append_right _ he)⟩, fun e he => ?_⟩
  rw [List.map_append, List.mem_append, not_or]
  refine ⟨h.new e (List.mem_append_right _ he), fun hk => ?_⟩
  exact hapart e.keyword hk e.keyword (List.mem_map_of_mem he) rfl

theorem Fresh.alone (h : Fresh own es) : Fresh [] es := ⟨h.distinct, fun _ _ => List.not_mem_nil⟩

theorem Fresh.inner {h : Heading} (hf : Fresh own [.dictionary h es]) : Fresh [] es :=
  ⟨distinct_dictionary.mp (List.forall_mem_singleton.mp hf.distinct.each),
    fun _ _ => List.not_mem_nil⟩

/-- The entries of a dictionary after others were put in it: those, if they are `Fresh` or
redefinitions are retained. -/
def Gathers (mode : InputMode) (own es es' : List Entry) : Prop :=
  mode = .retain ∨ Fresh own es → es' = own ++ es

theorem Gathers.trans {mode : InputMode} {own' own'' : List Entry} (h : Gathers mode own es own')
    (h' : Gathers mode own' es' own'') : Gathers mode own (es ++ es') own'' := fun hm => by
  obtain rfl := h (hm.imp_right Fresh.left)
  rw [h' (hm.imp_right Fresh.right), List.append_assoc]

end Entry

/-- None of the entries is refused in the dictionary that is read. -/
structure ReadState.Accepts (s : ReadState) (es : List Entry) : Prop where
  carries : s.scope.Carries fun _ => True
  fresh : s.mode = .error → Fresh s.scope.entries es

namespace ReadState.Accepts

variable {s : ReadState} {es es' own : List Entry}

theorem left (h : s.Accepts (es ++ es')) : s.Accepts es := ⟨h.carries, fun hm => (h.fresh hm).left⟩

/-- After some of the entries were put in the dictionary, the others are not refused. -/
theorem behind (h : s.Accepts (es ++ es')) (hown : Gathers s.mode s.scope.entries es own)
    (log : List Event) : Accepts ⟨s.scope.refill own, s.mode, log⟩ es' where
  carries := h.carries.refill fun _ _ _ _ => trivial
  fresh hm := by
    obtain rfl := hown (.inr (h.fresh hm).left)
    exact h.carries.entries_refill _ ▸ (h.fresh hm).right

/-- In a block of its own a dictionary has no entries yet. -/
theorem block (h : s.Accepts es) (log : List Event) :
    Accepts ⟨.staged [] s.scope, s.mode, log⟩ es :=
  ⟨⟨fun _ h => absurd h List.not_mem_nil, h.carries⟩, fun hm => (h.fresh hm).alone⟩

theorem inner {head : Heading} (h : s.Accepts [.dictionary head es]) :
    Accepts { s with scope := s.scope.inner } es :=
  ⟨h.carries.inner, fun hm => (h.fresh hm).inner⟩

end ReadState.Accepts

variable {setup : Setup} {name : String} {fault : Option Failure} {line : Int}

section Placing

variable {s : ReadState} {es : List Entry}

theorem exec_placeEach_new (hs : s.scope.Carries fun _ => True) (hk : (es.map keyword).Nodup)
    (hnew : ∀ e ∈ es, e.keyword ∉ s.scope.entries.map keyword) : exec (placeEach es) s =
      (.ok es, { s with scope := s.scope.refill (s.scope.entries ++ es) }) := by
  induction es generalizing s with
  | nil =>
    rw [List.append_nil, hs.refill_entries]
    rfl
  | cons e es ih =>
    obtain ⟨hnew, hnews⟩ := List.forall_mem_cons.mp hnew
    obtain ⟨he, hes⟩ := List.nodup_cons.mp hk
    have hrefill : (s.scope.refill (s.scope.entries ++ [e])).Carries fun _ => True :=
      hs.refill fun _ _ _ _ => trivial
    have hrest := ih (s := { s with scope := s.scope.refill (s.scope.entries ++ [e]) }) hrefill hes
      fun x hx => hs.entries_refill _ ▸ notMem_concat (hnews x hx) fun heq =>
        he (heq ▸ List.mem_map_of_mem hx)
    rw [placeEach, exec_bind, exec_place_new hs (newest?_eq_none.mpr hnew)]
    dsimp only
    rw [exec_bind, hrest, hs.entries_refill, Scope.refill_refill, List.append_assoc,
      List.singleton_append]
    rfl

theorem exec_placeEach_ne (es : List Entry) (hm : s.mode ≠ .error)
    (hs : s.scope.Carries fun _ => True) :
    ∃ placed es' log, exec (placeEach es) s = (.ok placed, ⟨s.scope.refill es', s.mode, log⟩) := by
  induction es generalizing s with
  | nil => exact ⟨[], s.scope.entries, s.log, by rw [hs.refill_entries]; rfl⟩
  | cons e es ih =>
    obtain ⟨placed, log, hplace⟩ := exec_place_putIn hm hs e
    obtain ⟨placed', es', log', hrest⟩ := ih
      (s := ⟨s.scope.refill (putIn s.mode s.scope.entries e), s.mode, log⟩) hm
      (hs.refill fun _ _ _ _ => trivial)
    refine ⟨placed ++ placed', es', log', ?_⟩
    rw [placeEach, exec_bind, hplace]
    dsimp only
    rw [exec_bind, hrest, Scope.refill_refill]
    rfl

theorem exec_place_gathers {e : Entry} (hs : s.Accepts [e]) :
    ∃ placed es' log, exec (place e) s = (.ok placed, ⟨s.scope.refill es', s.mode, log⟩) ∧
      Gathers s.mode s.scope.entries [e] es' := by
  by_cases hf : Fresh s.scope.entries [e]
  · have hnew := newest?_eq_none.mpr (hf.new e (List.mem_singleton_self e))
    exact ⟨_, _, _, exec_place_new hs.carries hnew, fun _ => rfl⟩
  · obtain ⟨placed, log, hplace⟩ := exec_place_putIn (fun h => hf (hs.fresh h)) hs.carries e
    refine ⟨placed, _, log, hplace, fun h => ?_⟩
    rw [h.resolve_right hf, putIn_retain]

/-- What a block brings is placed unless redefinitions are errors and there are some. -/
theorem exec_placeAll_gathers (hs : s.Accepts es) :
    ∃ placed es' log, exec (placeAll es) s = (.ok placed, ⟨s.scope.refill es', s.mode, log⟩) ∧
      Gathers s.mode s.scope.entries es es' := by
  have hnew (h : Fresh s.scope.entries es) : exec (placeAll es) s =
      (.ok es, { s with scope := s.scope.refill (s.scope.entries ++ es) }) := by
    have hcheck : checkNew (firstLines s.scope.entries) es = .ok () :=
      checkNew_of_nodup h.distinct.keywords fun e he => by
        simpa [firstLines, List.map_map] using h.new e he
    rw [placeAll, exec_bind, exec_get]
    dsimp only
    split
    · rw [exec_bind, exec_lift, hcheck]
      exact exec_placeEach_new hs.carries h.distinct.keywords h.new
    · exact exec_placeEach_new hs.carries h.distinct.keywords h.new
  by_cases hf : Fresh s.scope.entries es
  · exact ⟨_, _, _, hnew hf, fun _ => rfl⟩
  by_cases hm : s.mode = .retain
  · exact ⟨_, _, _, exec_placeAll_retain hm hs.carries es, fun _ => rfl⟩
  · have herror : s.mode ≠ .error := fun h => hf (hs.fresh h)
    obtain ⟨placed, es', log, hplace⟩ := exec_placeEach_ne es herror hs.carries
    refine ⟨placed, es', log, ?_, fun h => absurd h (not_or.mpr ⟨hm, hf⟩)⟩
    rw [placeAll, exec_bind, exec_get]
    dsimp only
    rw [if_neg herror, hplace]

/-- The same for entries that are made in place. -/
theorem exec_makeAll_gathers (hs : s.Accepts es) :
    ∃ es' log, exec (makeAll es) s = (.ok (), ⟨s.scope.refill es', s.mode, log⟩) ∧
      Gathers s.mode s.scope.entries es es' := by
  by_cases hf : Fresh s.scope.entries es
  · exact ⟨_, _, exec_makeAll_distinct hf.distinct hs.carries hf.new, fun _ => rfl⟩
  · obtain ⟨log, hmake⟩ := exec_makeAll (fun h => hf (hs.fresh h)) hs.carries es
    refine ⟨_, log, hmake, fun h => ?_⟩
    rw [h.resolve_right hf, settledAll_retain]

end Placing

/-! ### Reading an inclusion -/

section Reading

variable {budget n : Nat} {run : DirectiveRunner} {closing : Option Heading}
  {stops : List String} {t : Token} {ts : List Token} {s : ReadState}

theorem readEntries_directive {x : String} (ht : t.symbol = .directive x)
    (hstops : t.symbol.isDirectiveIn stops = false) :
    outcome (readEntries setup budget run n closing stops ⟨name, t :: ts, fault, line⟩) s =
      match outcome (run n t ⟨name, ts, fault, lineAfter line [t]⟩) s with
      | (.ok (es, j), s) =>
        match exec (placeAll es) s with
        | (.ok _, s) => outcome (readEntries setup budget run n closing stops j) s
        | (.error f, s) => (.error (f.within name), s)
      | (.error f, s) => (.error (f.within name), s) := by
  obtain ⟨_, l⟩ := t
  cases ht
  rw [readEntries_statement (by simp) (by simp) hstops]
  unfold outcome
  rw [readStatement.eq_def, exec_adapt, exec_bind]
  rcases exec (run n _ ⟨name, ts, fault, _⟩) s with ⟨_ | ⟨es, rest⟩, s⟩
  · rfl
  dsimp only [Except.map]
  rw [exec_bind]
  rcases exec (placeAll es) s with ⟨_ | placed, s⟩ <;> rfl

/-- A dictionary is read between its braces and then placed. -/
theorem readEntries_dictionary {k : Token} {x : String} {p : Bool} {l : Int}
    (hk : k.symbol = keywordSymbol x p) (hp : p = true → Pattern.fault? x = none)
    (hn : n < setup.settings.maxNesting) :
    outcome (readEntries setup budget run n closing stops
      ⟨name, k :: ⟨.opener .brace, l⟩ :: ts, fault, line⟩) s =
    match outcome (readEntries setup budget run (n + 1) (some ⟨x, p, k.line, -1⟩) []
      ⟨name, ts, fault, lineAfter (lineAfter line [k]) [⟨.opener .brace, l⟩]⟩)
      { s with scope := s.scope.inner } with
    | (.ok (ending, j), inside) =>
      match exec (place (.dictionary ⟨x, p, k.line, (ending.map (·.line)).getD (-1)⟩
        inside.scope.entries)) { inside with scope := s.scope } with
      | (.ok _, s) => outcome (readEntries setup budget run n closing stops j) s
      | (.error f, s) => (.error (f.within name), s)
    | (.error f, inside) => (.error (f.within name), { inside with scope := s.scope }) := by
  obtain ⟨h1, h2, h3⟩ := keywordSymbol_ne x p
  rw [readEntries_statement (hk ▸ h1) (hk ▸ h2) (hk ▸ h3 stops), readStatement_keyword hk,
    readEntry_brace hn, checked_eq hp]
  dsimp only
  rcases outcome (readEntries setup budget run (n + 1) _ [] _) _ with ⟨_ | ⟨ending, j⟩, inside⟩
  · rfl
  dsimp only
  rcases exec (place _) { inside with scope := s.scope } with ⟨_ | placed, s'⟩ <;> rfl

/-- An inclusion finds its file. -/
theorem outcome_locate {x : String} {p : Path} (ts : List Token) (fault : Option Failure)
    (line l : Int) (ht : t.symbol = .quoted x ∨ t.symbol = .word x) (hx : '$' ∉ x.toList)
    (hfinds : setup.Finds name x p) (frames : List (Frame Entry)) (log : List Event) :
    ∃ log', outcome (locate ⟨setup, frames⟩ false ⟨.directive "include", l⟩
        ⟨name, t :: ts, fault, line⟩) log =
      (.ok (some p, ⟨name, ts, fault, lineAfter line [t]⟩), log') := by
  obtain ⟨places, log', log'', hplaces, hfirst⟩ := hfinds frames log
  have hexpect (what : String) : Input.expect ⟨name, t :: ts, fault, line⟩ what =
      .ok (t, ⟨Input.after ⟨name, t :: ts, fault, line⟩ t ts, Input.size_after_lt rfl⟩) := rfl
  refine ⟨log'', ?_⟩
  unfold outcome locate
  dsimp only
  rw [exec_bind, exec_lift, hexpect]
  dsimp only
  obtain ⟨y, l'⟩ := t
  rcases ht with ht | ht <;> cases ht
  all_goals
    dsimp only
    rw [exec_bind, exec_pure]
    dsimp only
    rw [exec_bind, exec_lift, expandText_of_notMem hx]
    dsimp only
    rw [exec_bind, hplaces]
    dsimp only
    rw [exec_bind, hfirst]
    rfl

/-- An inclusion reads the file that it finds in a block. -/
theorem outcome_found {x text : String} {optional : Bool} {p : Path} {i j : Input}
    {log : List Event} (budget n : Nat) (ht : t.symbol = .directive x)
    (hd : setup.registry.find? x = some (.includeFile optional))
    (htext : setup.files.readText p = .ok text)
    (hfound : outcome (expanding setup fun c => locate c optional t i) s =
      (.ok (some p, j), { s with log })) :
    outcome (runDirective setup (budget + 1) n t i) s =
      match outcome (readEntries setup budget (runDirective setup budget) n none []
        (.ofText p.text text)) ⟨.staged [] s.scope, s.mode, log⟩ with
      | (.ok _, s') => (.ok ((Follows.leaveBlock s').1, j), (Follows.leaveBlock s').2)
      | (.error f, s') => (.error f, (Follows.leaveBlock s').2) := by
  obtain ⟨rest, hlocate, rfl⟩ := outcome_eq_ok.mp hfound
  have hget : setup.registry.get t.symbol.value t.line (some i.name) =
      .ok (.includeFile optional) := by
    rw [ht, Registry.get]
    dsimp only [Symbol.value]
    rw [hd]
  have hopen (frames : List (Frame Entry)) (log : List Event) :
      exec (openFile ⟨setup, frames⟩ p) log = (.ok (.ofText p.text text), log) := by
    rw [openFile, exec_bind, exec_lift, htext]
    rfl
  unfold outcome runDirective
  dsimp only
  rw [exec_bind, exec_lift, hget]
  dsimp only
  rw [exec_bind, hlocate]
  dsimp only
  rw [exec_bind, exec_expanding, hopen]
  dsimp only
  rw [exec_bind, Follows.exec_inBlock_eq]
  rcases exec (readEntries setup budget (runDirective setup budget) n none [] _) _ with
    ⟨_ | p, s'⟩
  · rfl
  · rfl

/-- An inclusion reads its file in a block. -/
theorem outcome_include {x text : String} {p : Path} (budget n : Nat) (ts : List Token)
    (fault : Option Failure) (line l : Int)
    (hd : setup.registry.find? "include" = some (.includeFile false))
    (ht : t.symbol = .quoted x ∨ t.symbol = .word x) (hx : '$' ∉ x.toList)
    (hfinds : setup.Finds name x p) (htext : setup.files.readText p = .ok text) (s : ReadState) :
    ∃ log, outcome (runDirective setup (budget + 1) n ⟨.directive "include", l⟩
        ⟨name, t :: ts, fault, line⟩) s =
      match outcome (readEntries setup budget (runDirective setup budget) n none []
        (.ofText p.text text)) ⟨.staged [] s.scope, s.mode, log⟩ with
      | (.ok _, s') => (.ok ((Follows.leaveBlock s').1, ⟨name, ts, fault, lineAfter line [t]⟩),
          (Follows.leaveBlock s').2)
      | (.error f, s') => (.error f, (Follows.leaveBlock s').2) := by
  obtain ⟨log, hlocate⟩ := outcome_locate ts fault line l ht hx hfinds s.scope.frames s.log
  obtain ⟨rest, hlocate, hrest⟩ := outcome_eq_ok.mp hlocate
  refine ⟨log, outcome_found budget n rfl hd htext (outcome_eq_ok.mpr ⟨rest, ?_, hrest⟩)⟩
  rw [exec_expanding, hlocate]

/-- Where the tokens stand before any others, they are read and their entries are put in the
dictionary if they fit, and reading fails with an error of the class if they do not. -/
structure ReadsOn (setup : Setup) (budget : Nat) (c : ErrorClass) (fits : Prop) (name : String)
    (n : Nat) (ts : List Token) (es : List Entry) : Prop where
  on (closing : Option Heading) (rest : List Token) (fault : Option Failure) (line : Int)
    {s : ReadState} (hfits : fits) (hs : s.Accepts es) : ∃ own log,
      outcome (readEntries setup budget (runDirective setup budget) n closing []
          ⟨name, ts ++ rest, fault, line⟩) s =
        outcome (readEntries setup budget (runDirective setup budget) n closing []
          ⟨name, rest, fault, lineAfter line ts⟩) ⟨s.scope.refill own, s.mode, log⟩ ∧
      Gathers s.mode s.scope.entries es own
  fails (closing : Option Heading) (rest : List Token) (fault : Option Failure) (line : Int)
    {s : ReadState} (hfits : ¬fits) (hs : s.Accepts es) : ∃ f s',
      outcome (readEntries setup budget (runDirective setup budget) n closing []
          ⟨name, ts ++ rest, fault, line⟩) s = (.error f, s') ∧ f.class? = some c

namespace ReadsOn

variable {c : ErrorClass} {fits fits' : Prop} {us : List Token} {es es' : List Entry}

theorem congr (h : ReadsOn setup budget c fits name n ts es) (hiff : fits' ↔ fits) :
    ReadsOn setup budget c fits' name n ts es :=
  ⟨fun _ _ _ _ _ hfits => h.on _ _ _ _ (hiff.mp hfits),
    fun _ _ _ _ _ hfits => h.fails _ _ _ _ fun hn => hfits (hiff.mpr hn)⟩

theorem literal (h : Body setup.settings.maxNesting n ts es) :
    ReadsOn setup budget c True name n ts es where
  on _ _ _ _ _ _ hs := by
    obtain ⟨own, log, hmake, hown⟩ := exec_makeAll_gathers hs
    refine ⟨own, log, ?_, hown⟩
    rw [h.makes, hmake]
  fails _ _ _ _ _ hfits := absurd trivial hfits

theorem statement {e : Entry} (h : Statement setup.settings.maxNesting n ts e) :
    ReadsOn setup budget c True name n ts [e] := by
  have hbody := Body.cons h .nil
  rw [List.append_nil] at hbody
  exact .literal hbody

theorem append (hts : ReadsOn setup budget c fits name n ts es)
    (hus : ReadsOn setup budget c fits' name n us es') :
    ReadsOn setup budget c (fits ∧ fits') name n (ts ++ us) (es ++ es') where
  on closing rest fault line _ hfits hs := by
    obtain ⟨own, log, hon, hown⟩ := hts.on closing (us ++ rest) fault line hfits.1 hs.left
    obtain ⟨own', log', hon', hown'⟩ := hus.on closing rest fault (lineAfter line ts) hfits.2
      (hs.behind hown log)
    rw [hs.carries.entries_refill] at hown'
    refine ⟨own', log', ?_, hown.trans hown'⟩
    rw [List.append_assoc, hon, hon', Scope.refill_refill, lineAfter_append]
  fails closing rest fault line _ hfits hs := by
    rw [List.append_assoc]
    by_cases hfirst : fits
    · obtain ⟨own, log, hon, hown⟩ := hts.on closing (us ++ rest) fault line hfirst hs.left
      rw [hon]
      exact hus.fails _ _ _ _ (fun h => hfits ⟨hfirst, h⟩) (hs.behind hown log)
    · exact hts.fails _ _ _ _ hfirst hs.left

theorem dictionary {k : Token} {l l' : Int} {h : Heading} (hk : heading? k l' = some h)
    (hn : n < setup.settings.maxNesting) (hts : ReadsOn setup budget c fits name (n + 1) ts es) :
    ReadsOn setup budget c fits name n
      (k :: ⟨.opener .brace, l⟩ :: ts ++ [⟨.closer .brace, l'⟩]) [.dictionary h es] := by
  obtain ⟨x, p, hsymbol, rfl, hp⟩ := heading?_eq_some hk
  constructor
  · intro closing rest fault line s hfits hs
    obtain ⟨own, log, hon, hown⟩ := hts.on (some ⟨x, p, k.line, -1⟩)
      (⟨.closer .brace, l'⟩ :: rest) fault (lineAfter (lineAfter line [k]) [⟨.opener .brace, l⟩])
      hfits hs.inner
    have hsame (hm : s.mode = .retain ∨ Fresh s.scope.entries [.dictionary ⟨x, p, k.line, l'⟩ es]) :
        own = es := hown (hm.imp_right Fresh.inner)
    have hplaced : ReadState.Accepts ⟨s.scope, s.mode, log⟩
        [.dictionary ⟨x, p, k.line, l'⟩ own] :=
      ⟨hs.carries, fun hm => hsame (.inr (hs.fresh hm)) ▸ hs.fresh hm⟩
    obtain ⟨placed, own', log', hplace, hown'⟩ := exec_place_gathers hplaced
    refine ⟨own', log', ?_, fun hm => ?_⟩
    · rw [List.append_assoc, List.cons_append, List.cons_append, List.singleton_append,
        readEntries_dictionary hsymbol hp hn, hon, readEntries_brace]
      dsimp only [Option.map, Option.getD]
      rw [hs.inner.carries.entries_refill, hplace, ← lineAfter_append, ← lineAfter_append,
        ← lineAfter_append]
      rfl
    · obtain rfl := hsame hm
      exact hown' hm
  · intro closing rest fault line s hfits hs
    obtain ⟨f, s', hfails, hf⟩ := hts.fails (some ⟨x, p, k.line, -1⟩)
      (⟨.closer .brace, l'⟩ :: rest) fault (lineAfter (lineAfter line [k]) [⟨.opener .brace, l⟩])
      hfits hs.inner
    refine ⟨f.within name, { s' with scope := s.scope }, ?_, (Failure.class?_within ..).trans hf⟩
    rw [List.append_assoc, List.cons_append, List.cons_append, List.singleton_append,
      readEntries_dictionary hsymbol hp hn, hfails]

/-- Where no expansion is left, a directive overflows. -/
theorem exhausted {x : String} {l : Int} : ReadsOn setup 0 .expansionOverflow False name n
    (⟨.directive x, l⟩ :: ts) es where
  on _ _ _ _ _ := False.elim
  fails _ _ _ _ _ _ _ := by
    rw [List.cons_append, readEntries_directive rfl (by rfl)]
    exact ⟨_, _, rfl, rfl⟩

/-- An inclusion brings what its file holds. -/
theorem file {x text : String} {p : Path} {l : Int}
    (hd : setup.registry.find? "include" = some (.includeFile false))
    (ht : t.symbol = .quoted x ∨ t.symbol = .word x) (hx : '$' ∉ x.toList)
    (hfinds : setup.Finds name x p) (htext : setup.files.readText p = .ok text)
    (hlex : Lexer.lex 1 text.toList = ⟨ts ++ us, none⟩)
    (hts : ReadsOn setup budget c fits p.text n ts es)
    (hus : Document setup.settings.maxNesting n (lineAfter 0 ts) us es') :
    ReadsOn setup (budget + 1) c fits name n [⟨.directive "include", l⟩, t] (es ++ es') := by
  have hinput : Input.ofText p.text text = ⟨p.text, ts ++ us, none, 0⟩ := by
    rw [Input.ofText, hlex]
    rfl
  constructor
  · intro closing rest fault line s hfits hs
    obtain ⟨log, hinclude⟩ := outcome_include budget n rest fault
      (lineAfter line [⟨.directive "include", l⟩]) l hd ht hx hfinds htext s
    have hblock := hs.block log
    obtain ⟨own, log₁, hon, hown⟩ := hts.on none us none 0 hfits hblock.left
    obtain ⟨own', log₂, hmake, hown'⟩ := exec_makeAll_gathers (hblock.behind hown log₁)
    have hbrought : Gathers s.mode [] (es ++ es') own' := hown.trans hown'
    have hplaced : ReadState.Accepts ⟨s.scope, s.mode, log₂⟩ own' :=
      ⟨hs.carries, fun hm => hbrought (.inr (hs.fresh hm).alone) ▸ hs.fresh hm⟩
    obtain ⟨placed, own'', log₃, hplace, hown''⟩ := exec_placeAll_gathers hplaced
    refine ⟨own'', log₃, ?_, fun hm => ?_⟩
    · rw [List.cons_append, List.singleton_append, readEntries_directive rfl (by rfl), hinclude,
        hinput, hon, hus.makes, hmake]
      dsimp only [Follows.leaveBlock, Scope.refill]
      rw [hplace]
      rfl
    · obtain rfl := hbrought (hm.imp_right Fresh.alone)
      exact hown'' hm
  · intro closing rest fault line s hfits hs
    obtain ⟨log, hinclude⟩ := outcome_include budget n rest fault
      (lineAfter line [⟨.directive "include", l⟩]) l hd ht hx hfinds htext s
    obtain ⟨f, s', hfails, hf⟩ := hts.fails none us none 0 hfits (hs.block log).left
    rw [List.cons_append, List.singleton_append, readEntries_directive rfl (by rfl), hinclude,
      hinput, hfails]
    exact ⟨_, _, rfl, (Failure.class?_within ..).trans hf⟩

/-- A dictionary is not read where the limit of nesting is reached. -/
theorem tooDeep {k : Token} {x : String} {p : Bool} {l : Int} (hk : k.symbol = keywordSymbol x p)
    (hn : ¬n < setup.settings.maxNesting) :
    ReadsOn setup budget .nestingExceeded False name n (k :: ⟨.opener .brace, l⟩ :: ts) es where
  on _ _ _ _ _ := False.elim
  fails _ _ _ _ _ _ _ := by
    obtain ⟨h1, h2, h3⟩ := keywordSymbol_ne x p
    rw [List.cons_append, List.cons_append, readEntries_statement (hk ▸ h1) (hk ▸ h2) (hk ▸ h3 []),
      readStatement_keyword hk, readEntry_tooDeep (Int.not_lt.mp hn)]
    exact ⟨_, _, rfl, rfl⟩

/-- The entries of a whole text, of which the last statement may be left without its terminator. -/
theorem read (h : ReadsOn setup (setup.settings.budget 0) c fits name 0 ts es)
    (hus : Document setup.settings.maxNesting 0 (lineAfter 0 ts) us es')
    (hdistinct : setup.settings.mode = .error → AllDistinct (es ++ es')) :
    WithinLimit c fits (fun e _ => setup.settings.mode = .retain ∨ AllDistinct (es ++ es') →
      e.inner? = some (es ++ es')) (Reader.read setup (.ofTokens name (ts ++ us))) := by
  have hfresh (h : AllDistinct (es ++ es')) : Fresh [] (es ++ es') :=
    ⟨h, fun _ _ => List.not_mem_nil⟩
  have hs : ReadState.Accepts ⟨.fresh [] [], setup.settings.mode, []⟩ (es ++ es') :=
    ⟨Scope.carries_nil, fun hm => hfresh (hdistinct hm)⟩
  rw [Reader.read_eq_outcome, Reader.entries, Input.ofTokens]
  constructor
  · intro hfits
    obtain ⟨own, log, hon, hown⟩ := h.on none us none 0 hfits hs.left
    obtain ⟨own', log', hmake, hown'⟩ := exec_makeAll_gathers (hs.behind hown log)
    rw [hon, hus.makes, hmake]
    refine ⟨_, _, rfl, fun hm => ?_⟩
    exact congrArg some ((hown.trans hown') (hm.imp_right hfresh))
  · intro hfits
    obtain ⟨f, s', hfails, hf⟩ := h.fails none us none 0 hfits hs.left
    rw [hfails]
    exact ⟨_, _, rfl, hf⟩

end ReadsOn

end Reading

/-- **Files are included exactly if the limit allows as many inside of one another.** -/
theorem Included.readsOn (hd : setup.registry.find? "include" = some (.includeFile false))
    {n d : Nat} {ts : List Token} {es : List Entry} (h : Included setup name n d ts es)
    (budget : Nat) : ReadsOn setup budget .expansionOverflow (d ≤ budget) name n ts es := by
  induction h generalizing budget with
  | literal h => exact (ReadsOn.literal h).congr (by simp)
  | file ht hx hfinds htext hlex _ hus ih =>
    cases budget with
    | zero => exact ReadsOn.exhausted.congr (by simp)
    | succ budget =>
      exact (ReadsOn.file hd ht hx hfinds htext hlex (ih budget) hus).congr Nat.succ_le_succ_iff
  | dictionary hk hn _ ih => exact .dictionary hk hn (ih budget)
  | append _ _ ih ih' => exact ((ih budget).append (ih' budget)).congr Nat.max_le

namespace Grammar

variable {limit : Int} {budget : Nat}

mutual

theorem Statement.readsOn {n : Nat} {ts : List Token} {e : Entry} :
    Statement limit n ts e → ReadsOn setup budget .nestingExceeded
      (e.Within setup.settings.maxNesting n) name n ts [e]
  | .bare hk => (ReadsOn.statement (.bare hk)).congr (by simp [Entry.Within, Entry.depth])
  | .value hk hvs =>
    (ReadsOn.statement (.value hk hvs)).congr (by simp [Entry.Within, Entry.depth])
  | .dictionary hk _ hts => by
    by_cases hn : n < setup.settings.maxNesting
    · exact (ReadsOn.dictionary hk hn hts.readsOn).congr
        (Entry.within_dictionary.trans (and_iff_right hn))
    · obtain ⟨x, p, hsymbol, rfl, hp⟩ := heading?_eq_some hk
      exact (ReadsOn.tooDeep hsymbol hn).congr
        (iff_of_false (fun h => hn (Entry.within_dictionary.mp h).1) id)

/-- **Dictionaries are read exactly if the limit allows as many inside of one another.** -/
theorem Body.readsOn {n : Nat} {ts : List Token} {es : List Entry} :
    Body limit n ts es → ReadsOn setup budget .nestingExceeded
      (∀ e ∈ es, e.Within setup.settings.maxNesting n) name n ts es
  | .nil => (ReadsOn.literal .nil).congr (by simp)
  | .spare hts =>
    have hspare := ReadsOn.literal (.spare .nil)
    (hspare.append hts.readsOn).congr (by simp)
  | .cons hss hts => (hss.readsOn.append hts.readsOn).congr List.forall_mem_cons

end

end Grammar

end CaseDict
