import CaseDict.Proofs.Lexing
import CaseDict.Proofs.Literal
import CaseDict.Proofs.Placing
/-! # Input modes

Without directives that change it, the input mode matters only for redefinitions. A read in the mode
`error` and one in another mode take the same course up to the first of them: there the former fails
and the latter goes on, and in the mode `warn` it leaves a warning behind (`Link.redefining`). Reads
in the modes `protect` and `warn` differ in their warnings only (`Link.silent`). -/

namespace CaseDict

open Expansion Statement Entry

/-- Reads in the mode `error` and in the mode `m`, up to the first redefinition. -/
def Link.redefining (m : InputMode) : Link (List Event) where
  rel log log' := log = log' ∧ ∀ event ∈ log, event.isIgnored = false
  shares f := f.isDuplicate = false
  parts f := f.isDuplicate = true
  after := if m = .warn then some fun log => ∃ event ∈ log, event.isIgnored = true else none

/-- Reads that may report different events. -/
def Link.silent : Link (List Event) := { rel := fun _ _ => True }

/-! ### Placing -/

variable {V : List Token → Prop} {e : Entry} {es : List Entry} {s : ReadState} {m : InputMode}

/-- The scope goes on carrying what it carries, and the log only grows. -/
structure ReadState.Continues (V : List Token → Prop) (s s' : ReadState) : Prop where
  carries : s'.scope.Carries V
  log : s.log <+: s'.log

namespace ReadState.Continues

variable {s' s'' : ReadState}

theorem refl (hs : s.scope.Carries V) : s.Continues V s := ⟨hs, List.prefix_refl _⟩

theorem trans (h : s.Continues V s') (h' : s'.Continues V s'') : s.Continues V s'' :=
  ⟨h'.carries, h.log.trans h'.log⟩

theorem warned (h : s.Continues V s') (hw : ∃ event ∈ s.log, event.isIgnored = true) :
    ∃ event ∈ s'.log, event.isIgnored = true := by
  obtain ⟨event, hevent, hi⟩ := hw
  exact ⟨event, h.log.subset hevent, hi⟩

end ReadState.Continues

theorem continues_place (hs : s.scope.Carries V) (he : e.Carries V) :
    s.Continues V (exec (place e) s).2 := by
  rw [exec_place_carries hs]
  cases hp : e.place s.mode s.scope.entries with
  | error f => exact .refl hs
  | ok p => exact ⟨hs.refill (carries_hereditary.place hs.entries he hp), List.prefix_append _ _⟩

/-- The state after entries were placed one after the other. -/
theorem exec_placeEach_cons (e : Entry) (es : List Entry) (s : ReadState) :
    (exec (placeEach (e :: es)) s).2 = match exec (place e) s with
      | (.ok _, s') => (exec (placeEach es) s').2
      | (.error _, s') => s' := by
  rw [placeEach, exec_bind]
  rcases exec (place e) s with ⟨_ | placed, s'⟩
  · rfl
  · dsimp only
    rw [exec_bind]
    rcases exec (placeEach es) s' with ⟨_ | more, s''⟩ <;> rfl

theorem continues_placeEach (hs : s.scope.Carries V) (hes : AllCarry V es) :
    s.Continues V (exec (placeEach es) s).2 := by
  induction es generalizing s with
  | nil => exact .refl hs
  | cons e es ih =>
    obtain ⟨he, hes⟩ := List.forall_mem_cons.mp hes
    have hplace := continues_place hs he
    rw [exec_placeEach_cons]
    generalize exec (place e) s = p at hplace ⊢
    obtain ⟨_ | placed, s'⟩ := p
    · exact hplace
    · exact hplace.trans (ih hplace.carries hes)

theorem continues_placeAll (hs : s.scope.Carries V) (hes : AllCarry V es) :
    s.Continues V (exec (placeAll es) s).2 := by
  have heach := continues_placeEach hs hes
  unfold placeAll
  rw [exec_bind, exec_get]
  dsimp only
  split
  · rw [exec_bind, exec_lift]
    cases checkNew (firstLines s.scope.entries) es with
    | error f => exact .refl hs
    | ok => exact heach
  · exact heach

/-! ### Redefinitions -/

theorem exec_place_new (hs : s.scope.Carries V) (h : newest? e.keyword s.scope.entries = none) :
    exec (place e) s = (.ok [e], { s with scope := s.scope.refill (s.scope.entries ++ [e]) }) := by
  rw [exec_place_carries hs, Entry.place_new (.inr h)]
  dsimp only
  rw [List.append_nil]

theorem exec_place_refused (hs : s.scope.Carries V) {old : Entry}
    (h : newest? e.keyword s.scope.entries = some old) (hm : s.mode = .error) :
    exec (place e) s = (.error (e.head.duplicate old.head.startLine), s) := by
  rw [exec_place_carries hs, hm, Entry.place, h]
  rfl

/-- A redefinition leaves a warning. -/
theorem place_warns (hs : s.scope.Carries V) {old : Entry}
    (h : newest? e.keyword s.scope.entries = some old) (hm : s.mode = .warn) :
    ∃ event ∈ (exec (place e) s).2.log, event.isIgnored = true := by
  rw [exec_place_carries hs, hm, Entry.place, h]
  exact ⟨_, List.mem_append_right _ (List.mem_singleton_self _), rfl⟩

theorem isDuplicate_of_checkNew {known : List (String × Int)} {f : Failure}
    (h : checkNew known es = .error f) : f.isDuplicate = true := by
  induction es generalizing known with
  | nil => contradiction
  | cons e es ih =>
    unfold checkNew at h
    split at h
    · cases h
      rfl
    · exact ih h

/-- What the check for redefinitions refuses leaves a warning when it is placed without. -/
theorem placeEach_warns {known : List (String × Int)} {f : Failure} (hs : s.scope.Carries V)
    (hes : AllCarry V es) (hm : s.mode = .warn)
    (hknown : ∀ k ∈ known.map Prod.fst, k ∈ s.scope.keywords)
    (h : checkNew known es = .error f) :
    ∃ event ∈ (exec (placeEach es) s).2.log, event.isIgnored = true := by
  -- The first entry with a known keyword leaves a warning, and placing the others keeps it. Until
  -- then all entries are placed, so what is known stays among the keywords.
  induction es generalizing known s with
  | nil => contradiction
  | cons e es ih =>
    obtain ⟨he, hes⟩ := List.forall_mem_cons.mp hes
    have hplace := continues_place hs he
    rw [exec_placeEach_cons]
    cases hn : newest? e.keyword s.scope.entries with
    | some old =>
      have hw := place_warns hs hn hm
      generalize exec (place e) s = p at hplace hw ⊢
      obtain ⟨_ | placed, s'⟩ := p
      · exact hw
      · exact (continues_placeEach hplace.carries hes).warned hw
    | none =>
      rw [exec_place_new hs hn] at hplace ⊢
      unfold checkNew at h
      split at h
      · next line hl =>
        obtain ⟨before, behind, rfl, -⟩ := List.lookup_eq_some_iff.mp hl
        have hmem : e.keyword ∈ s.scope.keywords := hknown _ (by simp)
        exact absurd hmem (Entry.newest?_eq_none.mp hn)
      · refine ih hplace.carries hes hm (fun k hk => ?_) h
        rw [Scope.keywords, hs.entries_refill, List.map_append, List.mem_append]
        rcases List.mem_cons.mp hk with rfl | hk
        · exact .inr (List.mem_singleton_self _)
        · exact .inl (hknown k hk)

/-! ### Up to the first redefinition -/

/-- The modes of two reads up to the first redefinition. -/
abbrev InputMode.Refusing (m mode mode' : InputMode) : Prop := mode = .error ∧ mode' = m

namespace Follows

variable {after : ReadState → Prop}

theorem redefining_after {modes : InputMode → InputMode → Prop}
    (h : after ∈ ((Link.redefining m).sharing V modes).after) : m = .warn ∧
      after = fun s => s.scope.Carries V ∧ ∃ event ∈ s.log, event.isIgnored = true := by
  obtain ⟨after, ha, rfl⟩ := Option.map_eq_some_iff.mp h
  unfold Link.redefining at ha
  dsimp only at ha
  split at ha
  · next hm =>
    obtain rfl := Option.some.inj ha
    exact ⟨hm, rfl⟩
  · contradiction

/-- A read that is alone keeps its warnings. -/
theorem redefining_stays {α : Type} {act : ReadM α}
    (h : ∀ s : ReadState, s.scope.Carries V → s.Continues V (exec act s).2)
    (ha : after ∈ ((Link.redefining m).sharing V m.Refusing).after) (hs : after s) :
    ((Link.redefining m).sharing V m.Refusing).Alone (Any : α → α → Prop) (exec act s) := by
  intro after' ha'
  obtain ⟨-, rfl⟩ := redefining_after ha
  obtain ⟨-, rfl⟩ := redefining_after ha'
  have hact := h s hs.1
  exact ⟨⟨hact.carries, hact.warned hs.2⟩, fun a _ => ⟨a, trivial⟩⟩

theorem redefining_place (he : e.Carries V) :
    Follows ((Link.redefining m).sharing V m.Refusing) (place e) (place e) Any where
  ends := by
    rintro ⟨scope, mode, log⟩ ⟨_, mode', _⟩ ⟨rfl, hs, ⟨rfl, rfl⟩, rfl, hlog⟩
    have hcontinues := continues_place (s := ⟨scope, mode', log⟩) hs he
    cases hn : newest? e.keyword scope.entries with
    | none =>
      have hnew (mode : InputMode) := exec_place_new (s := ⟨scope, mode, log⟩) hs hn
      rw [hnew] at hcontinues
      rw [hnew, hnew]
      exact .ok trivial ⟨rfl, hcontinues.carries, ⟨rfl, rfl⟩, rfl, hlog⟩
    | some old =>
      rw [exec_place_refused hs hn rfl]
      refine .parted rfl fun after ha => ?_
      obtain ⟨rfl, rfl⟩ := redefining_after ha
      exact ⟨⟨hcontinues.carries, place_warns hs hn rfl⟩, fun a _ => ⟨a, trivial⟩⟩
  stays after ha s hs := redefining_stays (fun _ hs => continues_place hs he) ha hs

theorem redefining_placeAll (hm : m ≠ .error) (hes : AllCarry V es) :
    Follows ((Link.redefining m).sharing V m.Refusing) (placeAll es) (placeAll es) Any where
  ends := by
    rintro ⟨scope, mode, log⟩ ⟨_, mode', _⟩ ⟨rfl, hs, ⟨rfl, rfl⟩, rfl, hlog⟩
    have heach := (placingEach (fun _ he => redefining_place (m := mode') he) hes).ends
      ⟨scope, .error, log⟩ ⟨scope, mode', log⟩ ⟨rfl, hs, ⟨rfl, rfl⟩, rfl, hlog⟩
    unfold Statement.placeAll
    rw [exec_bind, exec_get, exec_bind, exec_get]
    dsimp only
    rw [if_pos rfl, if_neg hm, exec_bind, exec_lift]
    cases hn : checkNew (firstLines scope.entries) es with
    | ok => exact heach
    | error f =>
      refine .parted (isDuplicate_of_checkNew hn) fun after ha => ?_
      obtain ⟨rfl, rfl⟩ := redefining_after ha
      have hcontinues := continues_placeEach (s := ⟨scope, .warn, log⟩) hs hes
      refine ⟨⟨hcontinues.carries, placeEach_warns hs hes rfl ?_ hn⟩, fun a _ => ⟨a, trivial⟩⟩
      simp [firstLines, Scope.keywords]
  stays after ha s hs := redefining_stays (fun _ hs => continues_placeAll hs hes) ha hs

end Follows

/-! ### Ignoring with and without a warning -/

/-- The modes differ at most in warning of what is ignored. -/
abbrev InputMode.MayWarn (mode mode' : InputMode) : Prop :=
  mode = mode' ∨ mode = .protect ∧ mode' = .warn

theorem InputMode.MayWarn.error_iff {mode mode' : InputMode} (h : mode.MayWarn mode') :
    mode = .error ↔ mode' = .error := by
  rcases h with rfl | ⟨rfl, rfl⟩
  · rfl
  · decide

theorem Entry.place_mayWarn {mode mode' : InputMode} (h : mode.MayWarn mode')
    (members : List Entry) : e.place mode members = e.place mode' members ∨
      ∃ entries placed events events', e.place mode members = .ok ⟨entries, placed, events⟩ ∧
        e.place mode' members = .ok ⟨entries, placed, events'⟩ := by
  rcases h with rfl | ⟨rfl, rfl⟩
  · exact .inl rfl
  · unfold Entry.place
    cases newest? e.keyword members with
    | none => exact .inl rfl
    | some old => exact .inr ⟨_, _, _, _, rfl, rfl⟩

namespace Follows

theorem silent_place (he : e.Carries V) :
    Follows (Link.silent.sharing V InputMode.MayWarn) (place e) (place e) Any where
  ends := by
    rintro ⟨scope, mode, log⟩ ⟨_, mode', log'⟩ ⟨rfl, hs, hmodes, -⟩
    have hkeeps := (continues_place (s := ⟨scope, mode, log⟩) hs he).carries
    have hplace (mode : InputMode) (log : List Event) :=
      exec_place_carries (s := ⟨scope, mode, log⟩) hs e
    rw [hplace] at hkeeps
    rw [hplace, hplace]
    dsimp only at hkeeps hmodes ⊢
    rcases Entry.place_mayWarn hmodes scope.entries with heq | ⟨_, _, _, _, hp, hp'⟩
    · rw [← heq]
      cases hp : e.place mode scope.entries with
      | error f => exact .error trivial
      | ok p =>
        rw [hp] at hkeeps
        exact .ok trivial ⟨rfl, hkeeps, hmodes, trivial⟩
    · rw [hp] at hkeeps
      rw [hp, hp']
      exact .ok trivial ⟨rfl, hkeeps, hmodes, trivial⟩
  stays after ha := by contradiction

end Follows

/-! ### Whole reads -/

/-- The token is a directive that changes the input mode. -/
def Token.ChangesMode (r : Registry) (t : Token) : Prop :=
  ∃ name, t.symbol = .directive name ∧ r.find? name = some .inputMode

namespace Setup

/-- The setup with another input mode. -/
def inMode (setup : Setup) (mode : InputMode) : Setup :=
  { setup with settings := { setup.settings with mode } }

/-- The text that is read, a file beside it, or a text of the environment. -/
inductive Provides (setup : Setup) (text : String) : String → Prop
  | text : Provides setup text text
  | file {p : Path} {content : String} (h : setup.files.readText p = .ok content) :
      Provides setup text content
  | environment {name value : String} (h : setup.settings.environment.lookup name = some value) :
      Provides setup text value

/-- No text that can be read changes the input mode. -/
def KeepsMode (setup : Setup) (text : String) : Prop :=
  ∀ s, setup.Provides text s → ∀ t ∈ (Lexer.lex 1 s.toList).tokens, ¬t.ChangesMode setup.registry

end Setup

/-- Values are literal, and tokens that are read do not change the input mode. -/
abbrev Vocabulary.modal (r : Registry) : Vocabulary :=
  .literal (fun t => ¬t.ChangesMode r) (fun f => f.isDuplicate = false) fun _ h => h

variable {setup : Setup} {text : String}

theorem Setup.KeepsMode.knows {s : String} (h : setup.KeepsMode text) (hs : setup.Provides text s)
    (name : String) : (Vocabulary.modal setup.registry).Knows (.ofText name s) :=
  ⟨h s hs, fun _ hf => Input.isDuplicate_of_fault hf⟩

/-- What a reference takes from the environment does not change the input mode. -/
theorem Setup.KeepsMode.environment (h : setup.KeepsMode text) {frames : List (Frame Entry)}
    {name value : String} {line : Int} {ts : List Token}
    (hvalue : Surroundings.environmentText? ⟨frames, setup.settings.environment⟩ name = some value)
    (hts : Surroundings.environmentTokens name value line = .ok ts) :
    ∀ t ∈ ts, ¬t.ChangesMode setup.registry := by
  obtain ⟨us, hlex, rfl⟩ := Surroundings.environmentTokens_eq_ok hts
  have hus := h value (.environment (Surroundings.lookup_of_environmentText? hvalue))
  rw [hlex] at hus
  intro t ht
  obtain ⟨u, hu, rfl⟩ := List.mem_map.mp ht
  exact hus u hu

/-- The two reads take the same course up to the first redefinition. -/
theorem Setup.KeepsMode.courses (h : setup.KeepsMode text) (hm : m ≠ .error) :
    SharedCourses (.redefining m) (.modal setup.registry) (m.Refusing)
      (setup.inMode .error) (setup.inMode m) := by
  have hshared : (Vocabulary.modal setup.registry).Shared (.redefining m) := fun _ hf => hf
  have hreport (event : Event) (hevent : event.isIgnored = false) :
      Follows (.redefining m) (report event) (report event) Any := by
    refine .changing ?_ fun after ha log hlog => ?_
    · rintro log _ ⟨rfl, hlog⟩
      exact ⟨rfl, List.forall_mem_append.mpr ⟨hlog, List.forall_mem_singleton.mpr hevent⟩⟩
    · unfold Link.redefining at ha
      dsimp only at ha
      split at ha
      · obtain rfl := Option.some.inj ha
        obtain ⟨event', hmem, hi⟩ := hlog
        exact ⟨event', List.mem_append_left _ hmem, hi⟩
      · contradiction
  refine .of_place Link.stops_never trivial ?_ (.inl rfl) (fun f name hf => ?_)
    (fun f name hf => ?_) (fun frames hf => ?_) (fun _ he => .redefining_place he)
    (fun _ hes => .redefining_placeAll hm hes) fun t name ht hs hd => ?_
  · refine .of_settings rfl (.inl rfl) (fun _ _ _ _ _ _ => ?_) hreport hshared
    exact ⟨Vocabulary.whole_literal, fun p content hp => h.knows (.file hp) _⟩
  · exact (Failure.isDuplicate_within name f).trans hf
  · exact (Failure.isDuplicate_within name f).trans hf
  · exact Vocabulary.alike_literal hshared hf fun _ _ _ _ hvalue hts => h.environment hvalue hts
  · exact absurd ⟨name, hs, hd⟩ ht

theorem SharedCourses.mayWarn (setup : Setup) :
    SharedCourses .silent .free InputMode.MayWarn (setup.inMode .protect) (setup.inMode .warn) := by
  have hreport (event : Event) (_ : event.isIgnored = false) :
      Follows .silent (report event) (report event) Any :=
    .changing (fun _ _ _ => trivial) fun _ ha => by contradiction
  refine .of_place Link.stops_never trivial ?_ (.inl rfl) (fun _ _ hf => hf) (fun _ _ _ => trivial)
    (fun frames hf => ?_) (fun _ he => .silent_place he)
    (fun _ hes => .placingAll (fun _ _ h => h.error_iff) (fun _ => trivial) rfl
      (fun _ he => .silent_place he) hes)
    fun _ _ _ _ _ => ⟨.inr ⟨rfl, rfl⟩, fun _ => .inl rfl⟩
  · refine .of_settings rfl (.inl rfl) (fun _ _ _ _ _ _ => ?_) hreport fun _ _ => trivial
    exact ⟨Vocabulary.whole_literal, fun _ _ _ => Vocabulary.knows_free _⟩
  · exact Vocabulary.alike_literal (fun _ _ => trivial) hf fun _ _ _ _ _ _ _ _ => trivial

namespace Reader

/-- What linked reads come to. -/
theorem redefining_ends {p q : Except Failure Entry × List Event} {post : Entry → Prop}
    (h : (Link.redefining m).Ends (Same post) p q) :
    (∀ e, p.1 = .ok e → q.1 = .ok e ∧ ∀ event ∈ q.2, event.isIgnored = false) ∧
      ∀ f, p.1 = .error f → (f.isDuplicate = false → q.1 = .error f) ∧
        (f.isDuplicate = true → m = .warn → ∃ event ∈ q.2, event.isIgnored = true) := by
  cases h with
  | ok hsame hlog =>
    obtain ⟨rfl, -⟩ := hsame
    obtain ⟨rfl, hlog⟩ := hlog
    exact ⟨fun e he => ⟨he, hlog⟩, fun f hf => by contradiction⟩
  | error hshared =>
    refine ⟨fun e he => by contradiction, fun f hf => ?_⟩
    obtain rfl := Except.error.inj hf
    exact ⟨fun _ => rfl, fun hd => absurd (hshared.symm.trans hd) (by decide)⟩
  | parted hparts halone =>
    refine ⟨fun e he => by contradiction, fun f hf => ?_⟩
    obtain rfl := Except.error.inj hf
    refine ⟨fun hd => absurd (hd.symm.trans hparts) (by decide), fun _ hm => ?_⟩
    exact (halone _ (if_pos hm)).1

theorem ofText_redefining (h : setup.KeepsMode text) (hm : m ≠ .error) (name : String) :
    (Link.redefining m).Ends (Same (Entry.Carries Token.AllLiteral))
      (ofText (setup.inMode .error) text name) (ofText (setup.inMode m) text name) :=
  read_ends (h.courses hm) (.inl rfl) (h.knows .text name) ⟨rfl, rfl⟩ ⟨rfl, List.forall_mem_nil _⟩

/-- If no text changes the input mode, the mode `error` decides whether the mode matters: what it
accepts all modes read alike, without ignoring anything; where it tells a redefinition the mode
`warn` ignores one; and all other failures are those of all modes. The modes `protect` and `warn`
never differ in what they read. -/
theorem modes_of_refusing (setup : Setup) (text name : String) :
    (setup.KeepsMode text →
      (∀ e, (ofText (setup.inMode .error) text name).1 = .ok e →
        (∀ m, (ofText (setup.inMode m) text name).1 = .ok e) ∧
          ∀ event ∈ (ofText (setup.inMode .warn) text name).2, event.isIgnored = false) ∧
      ∀ f, (ofText (setup.inMode .error) text name).1 = .error f →
        (f.isDuplicate = true →
          ∃ event ∈ (ofText (setup.inMode .warn) text name).2, event.isIgnored = true) ∧
        (f.isDuplicate = false → ∀ m, (ofText (setup.inMode m) text name).1 = .error f)) ∧
    (ofText (setup.inMode .protect) text name).1 = (ofText (setup.inMode .warn) text name).1 := by
  refine ⟨fun h => ?_, ?_⟩
  · have hmode (m : InputMode) (hm : m ≠ .error) := redefining_ends (ofText_redefining h hm name)
    obtain ⟨haccepted, hrefused⟩ := hmode .warn (by decide)
    refine ⟨fun e he => ⟨fun m => ?_, (haccepted e he).2⟩, fun f hf =>
      ⟨fun hd => (hrefused f hf).2 hd rfl, fun hd m => ?_⟩⟩
    · by_cases hm : m = .error
      · rwa [hm]
      · exact ((hmode m hm).1 e he).1
    · by_cases hm : m = .error
      · rwa [hm]
      · exact ((hmode m hm).2 f hf).1 hd
  · have hends := read_ends (SharedCourses.mayWarn setup) (.inl rfl)
      (Vocabulary.knows_free (.ofText name text)) (.inr ⟨rfl, rfl⟩) trivial
    unfold ofText
    generalize read (setup.inMode .protect) _ = p, read (setup.inMode .warn) _ = p' at hends ⊢
    cases hends with
    | ok hsame => rw [hsame.1]
    | error => rfl
    | parted hf => contradiction

/-- A redefinition in a text that takes a value from the environment. -/
theorem warns_of_refusing : (environmentSetup [("A", "1")]).KeepsMode "x $A;x 2;" ∧
    (∃ f, (ofText ((environmentSetup [("A", "1")]).inMode .error) "x $A;x 2;" "t").1 = .error f ∧
      f.isDuplicate = true) ∧
    ∃ event ∈ (ofText ((environmentSetup [("A", "1")]).inMode .warn) "x $A;x 2;" "t").2,
      event.isIgnored = true := by
  have hlex : Lexer.lex 1 "x $A;x 2;".toList = ⟨[⟨.word "x", 1⟩, ⟨.reference "A", 1⟩,
      ⟨.terminator, 1⟩, ⟨.word "x", 1⟩, ⟨.number (.int 2), 1⟩, ⟨.terminator, 1⟩], none⟩ :=
    Lexer.lex_of_lexWithin (n := 7) (by cbv)
  have hvalue : Lexer.lex 1 "1".toList = ⟨[⟨.number (.int 1), 1⟩], none⟩ :=
    Lexer.lex_of_lexWithin (n := 2) (by cbv)
  have hkeeps : (environmentSetup [("A", "1")]).KeepsMode "x $A;x 2;" := by
    intro s hs
    cases hs with
    | text =>
      rw [hlex]
      simp [Token.ChangesMode]
    | file h => contradiction
    | environment h =>
      have hone : s = "1" := by
        simp only [environmentSetup, List.lookup] at h
        split at h
        · exact (Option.some.inj h).symm
        · contradiction
      rw [hone, hvalue]
      simp [Token.ChangesMode]
  have hread : (ofText ((environmentSetup [("A", "1")]).inMode .error) "x $A;x 2;" "t").1 =
      .error (.diagnostic ⟨.duplicate "x" 1, 1, some "t"⟩) := by
    rw [ofText, Input.ofText, hlex]
    cbv
  exact ⟨hkeeps, ⟨_, hread, rfl⟩, (((modes_of_refusing _ _ "t").1 hkeeps).2 _ hread).1 rfl⟩

end Reader

end CaseDict
