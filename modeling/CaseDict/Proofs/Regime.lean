import CaseDict.Proofs.Contracts
import CaseDict.Proofs.Unguarded
/-! # Regimes

What holds of every statement holds of a whole read. A regime says, for reads under guard, what an
entry may be at a level of nesting, which lines and texts failures may name, and which failures there
are, provided that the guard let everything pass that a read came to. It gives a reason for each way
in which an entry comes to be and for each way in which a statement fails; then the dictionary that
is read and the failure of a read are as it says (`Regime.read`). -/

namespace CaseDict

open Expansion Statement

/-- Entries that satisfy `entry` at the level of nesting `n` are made here. Those in the dictionaries
around satisfy it at some level. Nothing is said of a scope that is stored. -/
def Scope.Holds (entry : Nat → Entry → Prop) (n : Nat) : Scope → Prop
  | fresh es around _ => (∀ e ∈ es, entry n e) ∧ ∀ f ∈ around, ∀ e ∈ f.entries, ∃ m, entry m e
  | staged es below => (∀ e ∈ es, entry n e) ∧ below.Holds entry n
  | stored .. => False

namespace Scope.Holds

variable {entry : Nat → Entry → Prop} {n : Nat} {s : Scope}

theorem nil : (Scope.fresh [] []).Holds entry 0 :=
  ⟨List.forall_mem_nil _, List.forall_mem_nil _⟩

theorem entries (h : s.Holds entry n) : ∀ e ∈ s.entries, entry n e := by
  cases s with
  | stored => contradiction
  | fresh | staged => exact h.1

theorem frames (h : s.Holds entry n) : ∀ f ∈ s.frames, ∀ e ∈ f.entries, ∃ m, entry m e := by
  induction s with
  | stored => contradiction
  | fresh es around removed => exact List.forall_mem_cons.mpr ⟨fun e he => ⟨n, h.1 e he⟩, h.2⟩
  | staged es below ih => exact List.forall_mem_cons.mpr ⟨fun e he => ⟨n, h.1 e he⟩, ih h.2⟩

theorem inner (h : s.Holds entry n) (m : Nat) : s.inner.Holds entry m :=
  ⟨List.forall_mem_nil _, h.frames⟩

theorem remove (h : s.Holds entry n) (what : List Removal) : (s.remove what).Holds entry n := by
  cases s with
  | stored => contradiction
  | fresh | staged => exact ⟨Entry.forall_mem_applyAll h.1 what, h.2⟩

theorem removeThrough (h : s.Holds entry n) (what : List Removal) :
    (s.removeThrough what).Holds entry n := by
  induction s with
  | stored => contradiction
  | fresh => exact h.remove what
  | staged es below ih => exact ⟨Entry.forall_mem_applyAll h.1 what, ih h.2⟩

theorem refill (h : s.Holds entry n) {es : List Entry} (hes : ∀ e ∈ es, entry n e) :
    (s.refill es).Holds entry n := by
  cases s with
  | stored => contradiction
  | fresh | staged => exact ⟨hes, h.2⟩

theorem carries (h : s.Holds entry n) : s.Carries fun _ => True := by
  induction s with
  | stored => contradiction
  | fresh => exact ⟨fun _ _ _ _ => trivial, fun _ _ _ _ _ _ => trivial⟩
  | staged es below ih => exact ⟨fun _ _ _ _ => trivial, ih h.2⟩

end Scope.Holds

namespace Entry

/-- An entry that is refused is told by its keyword and the line it begins on. -/
theorem place_eq_error {mode : InputMode} {es : List Entry} {e : Entry} {f : Failure}
    (h : e.place mode es = .error f) : ∃ firstLine, f = e.head.duplicate firstLine := by
  unfold place at h
  split at h
  · contradiction
  · split at h
    all_goals first
      | contradiction
      | exact ⟨_, (Except.error.inj h).symm⟩

theorem checkNew_eq_error {known : List (String × Int)} {es : List Entry} {f : Failure}
    (h : checkNew known es = .error f) : ∃ e ∈ es, ∃ firstLine, f = e.head.duplicate firstLine := by
  induction es generalizing known with
  | nil => contradiction
  | cons e es ih =>
    unfold checkNew at h
    split at h
    · exact ⟨e, List.mem_cons_self, _, (Except.error.inj h).symm⟩
    · obtain ⟨e', he', h⟩ := ih h
      exact ⟨e', List.mem_cons_of_mem _ he', h⟩

theorem head_mem_headings (e : Entry) : e.head ∈ e.headings := by
  cases e <;> exact List.mem_cons_self

end Entry

theorem Registry.get_eq_error {r : Registry} {key : String} {line : Int} {source : Option String}
    {f : Failure} (h : r.get key line source = .error f) :
    f = .diagnostic ⟨.unknownDirective key, line, source⟩ := by
  unfold get at h
  split at h
  · contradiction
  · exact (Except.error.inj h).symm

/-- A template without a text for all its references has a reference without a text. -/
theorem Template.expand_eq_error {ε : Type} {replace : String → Except ε String} {f : ε}
    {ps : List Piece} (h : expand replace ps = .error f) : ∃ name, replace name = .error f := by
  induction ps with
  | nil => contradiction
  | cons piece ps ih =>
    cases hps : expand replace ps with
    | error f' =>
      rw [hps] at ih
      cases piece with
      | literal c =>
        rw [expand, hps] at h
        exact ih h
      | reference name =>
        cases hn : replace name with
        | error f'' =>
          rw [expand, hn] at h
          exact ⟨name, hn.trans h⟩
        | ok text =>
          rw [expand, hn, hps] at h
          exact ih h
    | ok more =>
      cases piece with
      | literal c =>
        rw [expand, hps] at h
        contradiction
      | reference name =>
        cases hn : replace name with
        | error f'' =>
          rw [expand, hn] at h
          exact ⟨name, hn.trans h⟩
        | ok text =>
          rw [expand, hn, hps] at h
          contradiction

namespace Surroundings

theorem text_eq_error {s : Surroundings} {line : Int} {name : String} {f : Failure}
    (h : s.text line name = .error f) : ∃ cause, f = .unplaced cause line := by
  unfold text at h
  split at h
  · contradiction
  · exact ⟨_, (Except.error.inj h).symm⟩
  · split at h
    · contradiction
    · exact ⟨_, (Except.error.inj h).symm⟩

/-- A text that cannot be expanded is told by the line it stands on. -/
theorem expandText_eq_error {s : Surroundings} {template : String} {line : Int} {f : Failure}
    (h : s.expandText template line = .error f) : ∃ cause, f = .unplaced cause line := by
  obtain ⟨_, hn⟩ := Template.expand_eq_error h
  exact text_eq_error hn

theorem entry_eq_error {s : Surroundings} {name : String} {line : Int} {f : Failure}
    (h : s.entry name line = .error f) : f = .unplaced (.undefinedVariable name) line := by
  unfold entry at h
  split at h
  · contradiction
  · exact (Except.error.inj h).symm

theorem entry_eq_ok {s : Surroundings} {name : String} {line : Int} {e : Entry} :
    s.entry name line = .ok e ↔ s.find? name = some e := by
  unfold entry
  split
  · next h => simp [h]
  · next h => simp [h]

end Surroundings

/-- What entries and failures are in a read under guard. -/
structure Regime (guard : Guard) (setup : Setup) where
  /-- A line that a failure may name. -/
  line : Int → Prop
  /-- A text that a failure may name. -/
  source : String → Prop
  /-- A value that an entry may have. -/
  value : List Token → Prop
  /-- An entry at a level of nesting. -/
  entry : Nat → Entry → Prop
  /-- A failure in a statement. -/
  fails : Failure → Prop
  /-- A failure between statements. -/
  placed : Failure → Prop
  line_after {l l' : Int} (h : line l) : line (if 0 ≤ l then l else l')
  weaken {f : Failure} (h : placed f) : fails f
  stopped {f : Failure} (h : guard.Stops f) : placed f
  within {f : Failure} {name : String} (hn : source name) (h : fails f) : placed (f.within name)
  inText {cause : Cause} {l : Int} {name : String} (hl : line l) (hn : source name) :
    placed (.inText cause l name)
  unplaced {cause : Cause} {l : Int} (hl : line l) : fails (.unplaced cause l)
  /-- A keyword that is no regular expression. -/
  keyword {t : Token} {k : String} {why : Pattern.Fault} (ht : t.symbol = .quoted k)
    (hg : guard (.statement t) = false) (hk : Pattern.fault? k = some why)
    (hw : why ≠ .malformed) : fails (.pattern why)
  copying {n : Nat} {es : List Entry} {f : Failure} (hg : guard (.copies n es) = false)
    (hl : ∀ h ∈ Entry.headingsOf es, line h.startLine)
    (hf : (Entry.headingsOf es).findSome? Heading.failure? = some f) : fails f
  removing {names : List Token} {what : List Removal} {f : Failure}
    (hg : guard (.removal names) = false)
    (hf : Removal.readAll (Removal.ofTokens names) = (what, some f)) : fails f
  searching {p : Path} {f : Failure} (hg : guard (.lookup p) = false)
    (hf : setup.files.isFile p = .error f) : fails f
  opened {p : Path} {text : String} (hg : guard (.file p) = false)
    (hp : setup.files.readText p = .ok text) :
    source p.text ∧ (∀ t ∈ (Lexer.lex 1 text.toList).tokens, line t.line) ∧
      ∀ f ∈ (Lexer.lex 1 text.toList).fault, placed (f.failure p.text)
  nothing : value []
  lines {n : Nat} {e : Entry} (h : entry n e) : ∀ k ∈ e.headings, line k.startLine
  primitive {n : Nat} {h : Heading} {ts : List Token} (hl : line h.startLine) (hts : value ts) :
    entry n (.primitive h ts)
  dictionary {n : Nat} {h : Heading} {es : List Entry} (hl : line h.startLine)
    (hn : (n : Int) < setup.settings.maxNesting) (hes : ∀ e ∈ es, entry (n + 1) e) :
    entry n (.dictionary h es)
  valued {n : Nat} {h : Heading} {ts : List Token} (hp : entry n (.primitive h ts)) : value ts
  inner {n : Nat} {h : Heading} {es : List Entry} (hd : entry n (.dictionary h es)) :
    ∀ e ∈ es, entry (n + 1) e
  /-- A dictionary with another heading and other entries. -/
  remade {n : Nat} {h h' : Heading} {es es' : List Entry} (hd : entry n (.dictionary h es))
    (hl : line h'.startLine) (hes : ∀ e ∈ es', entry (n + 1) e) : entry n (.dictionary h' es')
  copies {n : Nat} {es : List Entry} (hg : guard (.copies n es) = false)
    (hes : ∀ e ∈ es, ∃ m, entry m e) : ∀ e ∈ es, entry n e

namespace Regime

variable {guard : Guard} {setup : Setup} (R : Regime guard setup)

/-- The lines of the tokens of the input, its name, and the fault that ends it. -/
structure Knows (i : Input) : Prop where
  tokens : ∀ t ∈ i.tokens, R.line t.line
  fault : ∀ f ∈ i.fault, R.placed f
  source : R.source i.name

/-- The input was read on to a line. -/
structure Begun (i : Input) : Prop extends R.Knows i where
  line : R.line i.line

/-- What expansion comes to in a statement. -/
def expansion : Contract (List Event) := { fails f _ := R.fails f }

/-- What comes of a statement at a level of nesting. -/
def statement (n : Nat) : Contract ReadState where
  inv s := s.scope.Holds R.entry n
  fails f _ := R.fails f

/-- What comes of statements at a level of nesting. -/
def statements (n : Nat) : Contract ReadState where
  inv s := s.scope.Holds R.entry n
  fails f _ := R.placed f

/-- The entries that names are looked up among. -/
abbrev Surrounds (frames : List (Frame Entry)) : Prop :=
  ∀ f ∈ frames, ∀ e ∈ f.entries, ∃ n, R.entry n e

/-- What expansion comes to in the texts of a read. -/
structure Expands : Prop where
  value {frames : List (Frame Entry)} (hf : R.Surrounds frames) {i : Input} (hi : R.Begun i)
    (budget : Nat) : Ensures R.expansion
      (readValue (Guarded.reference guard ⟨setup, frames⟩ budget)
        (Guarded.inline guard ⟨setup, frames⟩ budget) [] i)
      fun p => R.value p.1.1 ∧ R.Knows p.2.input
  argument {frames : List (Frame Entry)} (hf : R.Surrounds frames) {i : Input} (hi : R.Begun i)
    (budget : Nat) : Ensures R.expansion
      (readArgument (Guarded.reference guard ⟨setup, frames⟩ budget)
        (Guarded.inline guard ⟨setup, frames⟩ budget) i)
      fun p => R.Begun p.2.input

variable {R} {i : Input} {n : Nat} {α β : Type}

/-! ### Inputs -/

theorem Knows.after (h : R.Knows i) {t : Token} {rest : i.Less}
    (hn : i.next = .ok (some (t, rest))) : R.line t.line ∧ R.Begun rest.input := by
  obtain ⟨name, ts, fault, line⟩ := i
  cases ts with
  | nil => cases fault <;> cases hn
  | cons u us =>
    cases hn
    obtain ⟨ht, hus⟩ := List.forall_mem_cons.mp h.tokens
    exact ⟨ht, ⟨hus, h.fault, h.source⟩, R.line_after ht⟩

theorem Knows.next_error (h : R.Knows i) {f : Failure} (hf : i.next = .error f) :
    R.placed f := by
  obtain ⟨name, ts, fault, line⟩ := i
  cases ts with
  | cons => cases hf
  | nil =>
    cases fault with
    | none => cases hf
    | some f' =>
      cases hf
      exact h.fault _ rfl

theorem Begun.expect_ok (h : R.Begun i) {what : String} {t : Token} {rest : i.Less}
    (he : i.expect what = .ok (t, rest)) : R.line t.line ∧ R.Begun rest.input := by
  unfold Input.expect at he
  cases hn : i.next with
  | error f =>
    rw [hn] at he
    contradiction
  | ok found =>
    rw [hn] at he
    cases found with
    | none => contradiction
    | some p =>
      cases he
      exact h.after hn

theorem Begun.expect_error (h : R.Begun i) {what : String} {f : Failure}
    (he : i.expect what = .error f) : R.placed f := by
  unfold Input.expect at he
  cases hn : i.next with
  | error f =>
    rw [hn] at he
    cases he
    exact h.next_error hn
  | ok found =>
    rw [hn] at he
    cases found with
    | some p => contradiction
    | none =>
      cases he
      exact R.inText h.line h.source

/-- What reading a token comes to. -/
theorem Knows.next {σ : Type} {C : Contract σ} (h : R.Knows i)
    (hC : ∀ f s, R.placed f → C.fails f s) :
    Ensures C (liftM i.next) fun found => i.next = .ok found :=
  .lift (fun _ => id) fun _ hf s => hC _ s (h.next_error hf)

theorem Begun.expect {σ : Type} {C : Contract σ} (h : R.Begun i)
    (hC : ∀ f s, R.placed f → C.fails f s) (what : String) :
    Ensures C (liftM (i.expect what)) fun p => R.line p.1.line ∧ R.Begun p.2.input :=
  .lift (fun _ he => h.expect_ok he) fun _ hf s => hC _ s (h.expect_error hf)

theorem fails_expansion (f : Failure) (s : List Event) (h : R.placed f) :
    R.expansion.fails f s := R.weaken h

theorem fails_statement (f : Failure) (s : ReadState) (h : R.placed f) :
    (R.statement n).fails f s := R.weaken h

theorem fails_statements (f : Failure) (s : ReadState) (h : R.placed f) :
    (R.statements n).fails f s := h

/-- What is guarded against did not come up. -/
theorem meet {σ : Type} {C : Contract σ} (hC : ∀ f s, R.placed f → C.fails f s)
    (e : Encounter) : Ensures C (liftM (Guarded.meet guard e)) fun _ => guard e = false := by
  refine .lift (fun _ h => ?_) fun f h s => ?_
  all_goals unfold Guarded.meet at h
  · split at h
    · contradiction
    · next hg => simpa using hg
  · split at h
    · next hg =>
      cases h
      exact hC _ s (R.stopped ⟨rfl, e, hg⟩)
    · contradiction

/-- The directive of a name. -/
theorem directive {σ : Type} {C : Contract σ} (hC : ∀ f s, R.placed f → C.fails f s) {t : Token}
    (ht : R.line t.line) {source : String} (hs : R.source source) :
    Ensures C (liftM (setup.registry.get t.symbol.value t.line (some source))) fun _ => True :=
  .lift (fun _ _ => trivial) fun f hf s => by
    rw [Registry.get_eq_error hf]
    exact hC _ s (R.inText ht hs)

/-! ### Files -/

section Locating

variable {frames : List (Frame Entry)}

theorem expandingText {t : Token} (ht : R.line t.line) (template : String) :
    Ensures R.expansion
      (liftM ((Context.surroundings ⟨setup, frames⟩).expandText template t.line))
      fun _ => True := by
  refine .lift (fun _ _ => trivial) fun f hf _ => ?_
  obtain ⟨cause, rfl⟩ := Surroundings.expandText_eq_error hf
  exact R.unplaced ht

theorem isFile {p : Path} (hg : guard (.lookup p) = false) :
    Ensures R.expansion (liftM (setup.files.isFile p))
      fun found => setup.files.isFile p = .ok found :=
  .lift (fun _ => id) fun _ hf _ => R.searching hg hf

theorem reporting (e : Event) : Ensures R.expansion (report e) fun _ => True :=
  .modify (fun _ _ => trivial) trivial

theorem candidates (source : String) (name : Path) :
    Ensures R.expansion (Guarded.candidates guard ⟨setup, frames⟩ source name) fun _ => True := by
  unfold Guarded.candidates
  split
  · exact .pure trivial
  · refine .bind (reporting _) fun _ _ => ?_
    refine .bind (meet fails_expansion _) fun _ hg => ?_
    exact .bind (isFile hg) fun _ _ => .pure trivial

/-- What is found is a file. -/
theorem firstFile (places : List Path) :
    Ensures R.expansion (Guarded.firstFile guard ⟨setup, frames⟩ places)
      fun found => ∀ p ∈ found, setup.files.isFile p = .ok true := by
  induction places with
  | nil => exact .pure fun _ h => by contradiction
  | cons p places ih =>
    refine .bind (reporting _) fun _ _ => ?_
    refine .bind (meet fails_expansion _) fun _ hg => ?_
    refine .bind (isFile hg) fun found hfound => ?_
    split
    · next h =>
      subst h
      exact .pure fun _ hq => Option.some.inj hq ▸ hfound
    · exact ih

theorem locate (hi : R.Begun i) (optional : Bool) {t : Token} (ht : R.line t.line) :
    Ensures R.expansion (Guarded.locate guard ⟨setup, frames⟩ optional t i)
      fun p => (∀ q ∈ p.1, setup.files.isFile q = .ok true) ∧ R.Begun p.2.input := by
  unfold Guarded.locate
  refine .bind (hi.expect fails_expansion _) fun ⟨⟨y, line⟩, rest⟩ ⟨_, hrest⟩ => ?_
  dsimp -zeta only
  extract_lets find
  have hfind (raw : String) : Ensures R.expansion (find raw)
      fun p => (∀ q ∈ p.1, setup.files.isFile q = .ok true) ∧ R.Begun p.2.input := by
    refine .bind (expandingText ht raw) fun name _ => ?_
    refine .bind (candidates _ _) fun places _ => .bind (firstFile places) fun found hfound => ?_
    cases found with
    | some p => exact .pure ⟨hfound, hrest⟩
    | none =>
      dsimp only
      split
      · exact .pure ⟨hfound, hrest⟩
      · refine .bind (reporting _) fun _ _ => .throw fun _ => ?_
        exact R.weaken (R.inText ht hi.source)
  cases y with
  | quoted raw | word raw => exact .bind (.pure rfl) fun _ (h : raw = _) => h ▸ hfind raw
  | _ => exact .throw_bind fun _ => R.weaken (R.inText ht hi.source)

/-- A file that is there is opened. -/
theorem openFile {p : Path} (hp : setup.files.isFile p = .ok true) :
    Ensures R.expansion (Expansion.openFile ⟨setup, frames⟩ p)
      fun j => ∃ text, setup.files.readText p = .ok text ∧ j = .ofText p.text text := by
  unfold Files.isFile at hp
  cases hfind : setup.files.find p.text with
  | file octets =>
    have hread : setup.files.readText p = .ok (Text.ofOctets octets) := by
      unfold Files.readText
      rw [hfind]
    unfold Expansion.openFile
    rw [hread]
    exact .pure ⟨_, rfl, rfl⟩
  | directory => simp [hfind] at hp
  | fault why => cases why <;> simp [hfind] at hp

theorem Knows.ofText {name text : String} (hn : R.source name)
    (ht : ∀ t ∈ (Lexer.lex 1 text.toList).tokens, R.line t.line)
    (hf : ∀ f ∈ (Lexer.lex 1 text.toList).fault, R.placed (f.failure name)) :
    R.Knows (.ofText name text) where
  tokens := ht
  fault f hfault := by
    obtain ⟨f', hf', rfl⟩ := Option.map_eq_some_iff.mp hfault
    exact hf f' hf'
  source := hn

end Locating

/-! ### Scopes -/

theorem inDictionary {m : ReadM α} {post : α → Prop} (hm : Ensures (R.statements (n + 1)) m post) :
    Ensures (R.statement n) (inDictionary m)
      fun p => post p.1 ∧ ∀ e ∈ p.2, R.entry (n + 1) e := by
  refine .between (C := R.statements (n + 1)) (D := R.statement n)
    (fun es => ∀ e ∈ es, R.entry (n + 1) e) (fun s => { s with scope := s.scope.inner })
    (fun s t => (t.scope.entries, { t with scope := s.scope })) hm (fun _ => exec_inDictionary m)
    (fun s hs => ?_) (fun s t hs ht => ⟨hs, ?_⟩) fun f s t => R.weaken
  · exact Scope.Holds.inner hs _
  · exact Scope.Holds.entries ht

theorem inBlock {m : ReadM α} {post : α → Prop} (hm : Ensures (R.statements n) m post) :
    Ensures (R.statement n) (inBlock m) fun p => post p.1 ∧ ∀ e ∈ p.2, R.entry n e := by
  refine .between (C := R.statements n) (D := R.statement n)
    (fun es => ∀ e ∈ es, R.entry n e) (fun s => { s with scope := .staged [] s.scope }) (fun _ t => Follows.leaveBlock t) hm (Follows.exec_inBlock_eq m) (fun s hs => ?_)
    (fun s t hs ht => ?_) fun f s t h => ?_
  · exact ⟨List.forall_mem_nil _, hs⟩
  · obtain ⟨scope, mode, log⟩ := t
    cases scope with
    | stored => contradiction
    | fresh => exact ⟨ht, List.forall_mem_nil _⟩
    | staged => exact ⟨ht.2, ht.1⟩
  · exact R.weaken h

theorem expanding {act : Context → ExpandM α} {post : α → Prop}
    (h : ∀ frames, R.Surrounds frames → Ensures R.expansion (act ⟨setup, frames⟩) post) :
    Ensures (R.statement n) (Statement.expanding setup act) post := fun s hs => by
  have h := h s.scope.frames (Scope.Holds.frames hs) s.log trivial
  rw [exec_expanding]
  generalize exec (act ⟨setup, s.scope.frames⟩) s.log = p at h ⊢
  cases h with
  | ok _ ha => exact .ok hs ha
  | error hf => exact .error hf

theorem leveled : Entry.Leveled R.entry where
  inner := R.inner
  refill hd _ _ hs := R.remade hd (hs ▸ R.lines hd _ List.mem_cons_self)

/-- A dictionary under another heading. -/
theorem headed {h h' : Heading} {es : List Entry} (hd : R.entry n (.dictionary h es))
    (hl : R.line h'.startLine) : R.entry n (.dictionary h' es) := R.remade hd hl (R.inner hd)

theorem unplaced_fails {e : Entry} (he : R.entry n e) (firstLine : Int) :
    R.fails (e.head.duplicate firstLine) :=
  R.unplaced (R.lines he _ e.head_mem_headings)

theorem placing {e : Entry} (he : R.entry n e) :
    Ensures (R.statement n) (Statement.place e) fun _ => True := fun s hs => by
  have hholds : s.scope.Holds R.entry n := hs
  rw [exec_place_carries hholds.carries]
  cases hp : e.place s.mode s.scope.entries with
  | error f =>
    obtain ⟨firstLine, rfl⟩ := Entry.place_eq_error hp
    exact .error (unplaced_fails he firstLine)
  | ok p => exact .ok (hholds.refill (leveled.place hholds.entries he hp)) trivial

theorem placingEach {es : List Entry} (hes : ∀ e ∈ es, R.entry n e) :
    Ensures (R.statement n) (placeEach es) fun _ => True := by
  induction es with
  | nil => exact .pure trivial
  | cons e es ih =>
    obtain ⟨he, hes⟩ := List.forall_mem_cons.mp hes
    exact .bind (placing he) fun _ _ => .bind (ih hes) fun _ _ => .pure trivial

theorem placingAll {es : List Entry} (hes : ∀ e ∈ es, R.entry n e) :
    Ensures (R.statement n) (placeAll es) fun _ => True := fun s hs => by
  unfold Statement.placeAll
  rw [exec_bind, exec_get]
  dsimp only
  have heach := placingEach hes s hs
  split
  · rw [exec_bind, exec_lift]
    cases hc : Entry.checkNew (Entry.firstLines s.scope.entries) es with
    | ok => exact heach
    | error f =>
      obtain ⟨e, he, firstLine, rfl⟩ := Entry.checkNew_eq_error hc
      exact .error (unplaced_fails (hes e he) firstLine)
  · exact heach

/-! ### Entries -/

theorem surroundings {k : Surroundings → ReadM α} {post : α → Prop}
    (hk : ∀ s : Surroundings, R.Surrounds s.frames → Ensures (R.statement n) (k s) post) :
    Ensures (R.statement n) (surroundings setup >>= k) post :=
  fun s hs => hk _ (Scope.Holds.frames hs) s hs

theorem found {s : Surroundings} (hs : R.Surrounds s.frames) {name : String} {h : Heading}
    {es : List Entry} (hf : s.find? name = some (.dictionary h es)) :
    ∃ m, R.entry m (.dictionary h es) := by
  refine Lookup.scopedEntry_has (fun hd x hx => ?_) hs hf
  obtain ⟨m, hd⟩ := hd
  exact ⟨m + 1, R.inner hd x hx⟩

theorem found_value {s : Surroundings} (hs : R.Surrounds s.frames) {name : String} {h : Heading}
    {ts : List Token} (hf : s.find? name = some (.primitive h ts)) : R.value ts := by
  obtain ⟨m, hm⟩ := Lookup.scopedEntry_has (P := fun e => ∃ m, R.entry m e)
    (fun hd x hx => hd.elim fun m hm => ⟨m + 1, R.inner hm x hx⟩) hs hf
  exact R.valued hm

/-- The heading of an entry is no regular expression, if the guard let its keyword pass. -/
theorem checked {h : Heading} (hl : R.line h.startLine)
    (hk : h.isPattern = true → ∃ t : Token, t.symbol = .quoted h.keyword ∧
      guard (.statement t) = false) :
    Ensures (R.statement n) (liftM h.checked) (· = h) := by
  refine .lift (fun h' hok => (Heading.checked_eq_ok.mp hok).2) fun f hf s => ?_
  unfold Heading.checked at hf
  split at hf
  · contradiction
  next f' hfail =>
  cases hf
  unfold Heading.failure? at hfail
  split at hfail
  · next hp =>
    obtain ⟨t, ht, hg⟩ := hk hp
    obtain ⟨why, hwhy, rfl⟩ := Option.map_eq_some_iff.mp hfail
    cases why with
    | malformed => exact R.unplaced hl
    | _ => exact R.keyword ht hg hwhy (by simp)
  · contradiction

/-! ### Statements -/

/-- What a statement brings at a level of nesting, and what it leaves of the input. -/
abbrev Brings (R : Regime guard setup) (n : Nat) {i : Input} (p : Taken (List Entry) i) : Prop :=
  (∀ e ∈ p.1, R.entry n e) ∧ R.Knows p.2.input

theorem headingsOf_line {es : List Entry} (hes : ∀ e ∈ es, ∃ m, R.entry m e) :
    ∀ h ∈ Entry.headingsOf es, R.line h.startLine := fun h hh => by
  obtain ⟨e, he, hk⟩ := Entry.mem_headingsOf.mp hh
  obtain ⟨m, hm⟩ := hes e he
  exact R.lines hm h hk

theorem dictionary_known {h : Heading} {es : List Entry} (hd : ∃ m, R.entry m (.dictionary h es)) :
    ∀ e ∈ es, ∃ m, R.entry m e := fun e he => by
  obtain ⟨m, hm⟩ := hd
  exact ⟨m + 1, R.inner hm e he⟩

/-- Copies of entries, if the guard let them pass. -/
theorem copying_all {es : List Entry} (hg : guard (.copies n es) = false)
    (hes : ∀ e ∈ es, ∃ m, R.entry m e) :
    Ensures (R.statement n) (es.mapM fun e => (liftM e.copy : ReadM Entry)) (· = es) :=
  fun s hs => by
    rw [exec_copies]
    cases hf : (Entry.headingsOf es).findSome? Heading.failure? with
    | none => exact .ok hs rfl
    | some f => exact .error (R.copying hg (headingsOf_line hes) hf)

theorem splice (hi : R.Begun i) {t : Token} (ht : R.line t.line) (name : String) :
    Ensures (R.statement n) (Guarded.splice guard setup n name t i) (R.Brings n) := fun s hs => by
  have hsurroundings : exec (Statement.surroundings setup) s = (.ok (s.surroundings setup), s) := rfl
  have hplain (hg : ∀ h es, (s.surroundings setup).find? name = some (.dictionary h es) →
      guard (.copies n es) = false) : (R.statement n).Comes (R.Brings n)
        (exec (Statement.splice setup name t i) s) := by
    have hentry : Ensures (R.statement n) (liftM ((s.surroundings setup).entry name t.line))
        fun e => (s.surroundings setup).find? name = some e := by
      refine .lift (fun e he => Surroundings.entry_eq_ok.mp he) fun f hf _ => ?_
      rw [Surroundings.entry_eq_error hf]
      exact R.unplaced ht
    rw [Statement.splice, exec_bind, hsurroundings]
    refine Ensures.bind hentry (fun e he => ?_) s hs
    cases e with
    | primitive => exact .throw fun _ => R.weaken (R.inText ht hi.source)
    | dictionary h es =>
      have hes := dictionary_known (found (Scope.Holds.frames hs) he)
      refine .bind (hi.next fails_statement) fun following hnext => ?_
      refine .bind (copying_all (hg h es he) hes) fun es' heq => .pure ?_
      subst heq
      refine ⟨R.copies (hg h _ he) hes, ?_⟩
      split
      · exact (hi.after hnext).2.toKnows
      · exact hi.toKnows
  rw [Guarded.splice, exec_bind, hsurroundings]
  dsimp only
  split
  · next h es hf =>
    unfold Guarded.meet
    split
    · next hg => exact .error (R.weaken (R.stopped ⟨rfl, _, hg⟩))
    · next hg =>
      refine hplain fun h' es' hfind => ?_
      cases hf.symm.trans hfind
      simpa using hg
  · next hf => exact hplain fun h es hfind => (hf h es hfind).elim

/-- What is read of an entry. -/
abbrev Makes (R : Regime guard setup) (n : Nat) {i : Input} (p : Taken Entry i) : Prop :=
  R.entry n p.1 ∧ R.Knows p.2.input

theorem copyDictionary (hi : R.Begun i) {h target : Heading} {es : List Entry} {t : Token}
    (ht : R.line t.line) (hl : R.line h.startLine)
    (hd : ∃ m, R.entry m (.dictionary target es))
    (hg : guard (.copies n [.dictionary { target with keyword := h.keyword } es]) = false)
    (name : String) :
    Ensures (R.statement n) (Statement.copyDictionary h name t target es i)
      fun p => R.entry n p.1 ∧ R.Knows p.2.input := by
  have hknown : ∀ e ∈ [Entry.dictionary { target with keyword := h.keyword } es],
      ∃ m, R.entry m e := by
    obtain ⟨m, hm⟩ := hd
    have hline : R.line target.startLine := R.lines hm target List.mem_cons_self
    exact List.forall_mem_singleton.mpr ⟨m, headed hm hline⟩
  have hcopy : Ensures (R.statement n)
      (liftM (Entry.dictionary { target with keyword := h.keyword } es).copy)
      fun e => e = .dictionary { target with keyword := h.keyword } es := by
    refine .lift (fun e he => (Entry.copy_eq_ok.mp he).2) fun f hf _ => ?_
    refine R.copying hg (headingsOf_line hknown) ?_
    unfold Entry.copy at hf
    split at hf
    · next f' hfail =>
      cases hf
      simpa [Entry.headingsOf] using hfail
    · contradiction
  unfold Statement.copyDictionary
  dsimp -zeta only
  extract_lets finish
  have hfinish (endLine : Int) (rest : i.Rest) (hrest : R.Knows rest.input) :
      Ensures (R.statement n) (finish (endLine, rest))
        fun p => R.entry n p.1 ∧ R.Knows p.2.input := by
    refine .bind hcopy fun e he => ?_
    subst he
    exact .pure ⟨headed (R.copies hg hknown _ List.mem_cons_self) hl, hrest⟩
  refine .bind (hi.next fails_statement) fun following hnext => ?_
  rcases following with _ | ⟨⟨y, line⟩, rest⟩
  · exact hfinish _ _ hi.toKnows
  · obtain ⟨hline, hrest⟩ := hi.after hnext
    cases y with
    | terminator => exact hfinish _ _ hrest.toKnows
    | closer => exact .throw_bind fun _ => R.weaken (R.inText hline hi.source)
    | _ => exact .throw_bind fun _ => R.weaken (R.inText ht hi.source)

section Reading

variable (X : R.Expands) {budget : Nat} {run : DirectiveRunner}

include X

theorem readPrimitive (hi : R.Begun i) {h : Heading} (hl : R.line h.startLine)
    (hk : h.isPattern = true → ∃ t : Token, t.symbol = .quoted h.keyword ∧
      guard (.statement t) = false) :
    Ensures (R.statement n) (Guarded.readEntry.readPrimitive guard setup budget h i)
      (R.Makes n) := by
  unfold Guarded.readEntry.readPrimitive Guarded.readTokens
  refine .bind (expanding fun frames hf => X.value hf hi budget) fun ⟨⟨ts, endLine⟩, rest⟩ hread => ?_
  have hchecked := checked (R := R) (n := n) (h := { h with endLine }) hl hk
  refine .bind hchecked fun h' heq => ?_
  subst heq
  exact .pure ⟨R.primitive hl hread.1, hread.2⟩

/-- Statements are as they should be if they are read from fewer than `size` tokens. -/
def Below (R : Regime guard setup) (budget : Nat) (run : DirectiveRunner) (size : Nat) : Prop :=
  ∀ i : Input, i.size < size → R.Knows i → ∀ n closing stops,
    (∀ h ∈ closing, R.line h.startLine) → Ensures (R.statements n)
      (Guarded.readEntries guard setup budget run n closing stops i) fun p => R.Knows p.2.input

theorem readEntry (hbelow : R.Below budget run i.size) (hi : R.Begun i) {h : Heading}
    (hl : R.line h.startLine)
    (hk : h.isPattern = true → ∃ t : Token, t.symbol = .quoted h.keyword ∧
      guard (.statement t) = false) :
    Ensures (R.statement n) (Guarded.readEntry guard setup budget run n h i) (R.Makes n) := by
  rw [Guarded.readEntry.eq_def]
  refine .bind (hi.next fails_statement) fun found hnext => ?_
  rcases found with _ | ⟨⟨y, line⟩, rest⟩
  · have hchecked := checked (R := R) (n := n) (h := { h with endLine := h.startLine }) hl hk
    refine .bind hchecked fun h' heq => ?_
    subst heq
    exact .pure ⟨R.primitive hl R.nothing, hi.toKnows⟩
  obtain ⟨hline, hrest⟩ := hi.after hnext
  cases y with
  | opener b =>
    cases b with
    | brace =>
      dsimp only
      split
      · exact .throw_bind fun _ => R.weaken (R.inText hl hi.source)
      · next hlimit =>
        refine .bind (checked hl hk) fun h' heq => ?_
        subst heq
        have hread := hbelow _ rest.lt hrest.toKnows (n + 1) (some h') []
          fun _ hh => Option.some.inj hh ▸ hl
        refine .bind (inDictionary hread) fun ⟨⟨ending, more⟩, es⟩ ⟨hmore, hes⟩ => ?_
        exact .pure ⟨R.dictionary hl (by omega) hes, hmore⟩
    | round | square => exact readPrimitive X hi hl hk
  | reference name =>
    dsimp only
    refine surroundings fun around haround => ?_
    rcases hf : around.find? name with _ | ⟨_, _⟩ | ⟨target, es⟩
    · exact readPrimitive X hi hl hk
    · exact readPrimitive X hi hl hk
    · dsimp only
      refine .bind (meet fails_statement _) fun _ hg => ?_
      have hcopy := copyDictionary (n := n) (t := ⟨.reference name, line⟩) hrest hline hl
        (found haround hf) hg name
      exact .bind hcopy fun ⟨e, more⟩ he => .pure he
  | _ => exact readPrimitive X hi hl hk

/-- Directives bring what they should. -/
abbrev Runs (R : Regime guard setup) (run : DirectiveRunner) : Prop :=
  ∀ (n : Nat) (t : Token) (i : Input), R.Begun i → R.line t.line →
    Ensures (R.statement n) (run n t i) (R.Brings n)

variable (hrun : R.Runs run)

include hrun

theorem readStatement (hbelow : R.Below budget run i.size) (hi : R.Begun i) {t : Token}
    (ht : R.line t.line) :
    Ensures (R.statements n) (Guarded.readStatement guard setup budget run n t i)
      fun p => R.Knows p.2.input := by
  rw [Guarded.readStatement.eq_def]
  refine .adapt (C := R.statement n) ?_ rfl fun f _ hf => R.within hi.source hf
  refine .bind (meet fails_statement _) fun _ hg => ?_
  obtain ⟨y, line⟩ := t
  cases y with
  | directive =>
    refine .bind (hrun n _ i hi ht) fun ⟨es, rest⟩ ⟨hes, hrest⟩ => ?_
    exact .bind (placingAll hes) fun _ _ => .pure hrest
  | reference name =>
    refine .bind (splice hi ht name) fun ⟨es, rest⟩ ⟨hes, hrest⟩ => ?_
    exact .bind (placingAll hes) fun _ _ => .pure hrest
  | word s =>
    refine .bind (readEntry X hbelow hi ht fun h => by contradiction) fun ⟨e, rest⟩ he => ?_
    exact .bind (placing he.1) fun _ _ => .pure he.2
  | quoted s =>
    refine .bind (readEntry X hbelow hi ht fun _ => ⟨_, rfl, hg⟩) fun ⟨e, rest⟩ he => ?_
    exact .bind (placing he.1) fun _ _ => .pure he.2
  | _ => exact .throw fun _ => R.weaken (R.inText ht hi.source)

theorem below (size : Nat) : R.Below budget run size := by
  -- A statement and what comes after it are read from less input.
  induction size with
  | zero => intro i h; omega
  | succ size ih =>
    intro i hlt hi n closing stops hclosing
    rw [Guarded.readEntries.eq_def]
    refine .bind (hi.next fails_statements) fun found hnext => ?_
    rcases found with _ | ⟨t, rest⟩
    · cases closing with
      | none => exact .pure hi
      | some h => exact .throw fun _ => R.inText (hclosing h rfl) hi.source
    have hless := rest.lt
    obtain ⟨hline, hrest⟩ := hi.after hnext
    dsimp only
    split
    · split
      · exact .pure hrest.toKnows
      · exact .throw fun _ => R.inText hline hi.source
    split
    · have hread := ih rest.input (by omega) hrest.toKnows n closing stops hclosing
      exact .bind hread fun ⟨ending, more⟩ hmore => .pure hmore
    split
    · exact .pure hrest.toKnows
    · refine .bind (readStatement X hrun (fun j hj => ih j (by omega)) hrest hline)
        fun ⟨_, more⟩ hmore => ?_
      have hle := more.le
      have hread := ih more.input (by omega) hmore n closing stops hclosing
      exact .bind hread fun ⟨ending, last⟩ hlast => .pure hlast

end Reading

/-! ### Directives in place of keywords -/

/-- What is left of the input after a branch that is not taken. -/
theorem skipBranch {own : Directive} {t : Token} {allowOtherwise : Bool} {inner : Nat}
    (hi : R.Knows i) (ht : R.line t.line) : Settles R.placed (fun p => R.Knows p.2.input)
      (Statement.skipBranch own t allowOtherwise inner i) := by
  induction hn : i.size using Nat.strongRecOn generalizing i inner with
  | ind n ih =>
    rw [skipBranch.eq_def]
    have hnext : Settles R.placed (fun found => i.next = .ok found) i.next := by
      cases hf : i.next with
      | ok found => exact .ok rfl
      | error f => exact .error (hi.next_error hf)
    refine .bind hnext fun found hfound => ?_
    split
    · exact .error (R.inText ht hi.source)
    · next found rest =>
      have hrest := (hi.after hfound).2.toKnows
      extract_lets skip
      have hskip (inner : Nat) : Settles R.placed (fun p => R.Knows p.2.input) (skip inner) :=
        .bind (ih _ (hn ▸ rest.lt) hrest rfl) fun _ hmore => .ok hmore
      split
      · exact hskip _
      split
      · cases inner with
        | zero => exact .ok hrest
        | succ inner => exact hskip _
      split
      · split
        · exact .ok hrest
        · exact .error (R.inText ht hi.source)
      · exact hskip _

theorem skipping {own : Directive} {t : Token} {allowOtherwise : Bool} (hi : R.Knows i)
    (ht : R.line t.line) : Ensures (R.statement n)
      (liftM (Statement.skipBranch own t allowOtherwise 0 i)) fun p => R.Knows p.2.input :=
  .settled (skipBranch hi ht) fun _ _ => R.weaken

theorem conditional {entries : List String → (i : Input) → ReadM (Taken (Option Token) i)}
    (he : ∀ stops i, R.Knows i →
      Ensures (R.statements n) (entries stops i) fun p => R.Knows p.2.input)
    {own : Directive} {t : Token} {taken : Bool} (hi : R.Knows i) (ht : R.line t.line) :
    Ensures (R.statement n) (conditional entries own t taken i) (R.Brings n) := by
  have hunclosed (j : Input) (hj : R.Knows j) :
      R.fails (conditionalUnclosed own t j) := R.weaken (R.inText ht hj.source)
  unfold Statement.conditional
  split
  · refine .bind (inBlock (he _ _ hi)) fun ⟨⟨ending, rest⟩, es⟩ ⟨hrest, hes⟩ => ?_
    dsimp only
    split
    · exact .throw fun _ => hunclosed _ hi
    · split
      · exact .bind (skipping hrest ht) fun ⟨_, more⟩ hmore => .pure ⟨hes, hmore⟩
      · exact .pure ⟨hes, hrest⟩
  · refine .bind (skipping hi ht) fun ⟨ending, rest⟩ hrest => ?_
    dsimp only
    split
    · refine .bind (inBlock (he _ _ hrest)) fun ⟨⟨ending, more⟩, es⟩ ⟨hmore, hes⟩ => ?_
      dsimp only
      split
      · exact .throw fun _ => hunclosed _ hi
      · split
        · exact .throw fun _ => R.weaken (R.inText ht hi.source)
        · exact .pure ⟨hes, hmore⟩
    · exact .pure ⟨List.forall_mem_nil _, hrest⟩

/-- Removals leave the other entries. -/
theorem remove (hi : R.Knows i) {t : Token} (ht : R.line t.line) {names : List Token}
    (hg : guard (.removal names) = false) :
    Ensures (R.statement n) (Statement.remove t i names) fun _ => True := by
  unfold Statement.remove
  dsimp only
  split
  · exact .throw_bind fun _ => R.weaken (R.inText ht hi.source)
  split
  · exact .modify (fun s hs => Scope.Holds.removeThrough hs _) trivial
  · next what f hf =>
    refine .bind (.modify (fun s hs => Scope.Holds.remove hs _) trivial) fun _ (_ : True) => ?_
    exact .throw fun _ => R.removing hg hf

theorem changeMode (hi : R.Begun i) {t : Token} (ht : R.line t.line) :
    Ensures (R.statement n) (Statement.changeMode setup t i) (R.Brings n) := by
  unfold Statement.changeMode
  refine .bind (hi.expect fails_statement _) fun ⟨⟨y, line⟩, rest⟩ ⟨_, hrest⟩ => ?_
  have hset (mode : InputMode) : Ensures (R.statement n) (do
      modify fun s => { s with mode }
      return (([] : List Entry), rest.toRest)) (R.Brings n) :=
    .bind (.modify (fun s hs => hs) trivial) fun _ (_ : True) =>
      .pure ⟨List.forall_mem_nil _, hrest.toKnows⟩
  cases y with
  | word s =>
    dsimp only
    split
    · exact hset _
    · split
      · exact hset _
      · exact .throw_bind fun _ => R.weaken (R.inText ht hi.source)
  | _ => exact .throw fun _ => R.weaken (R.inText ht hi.source)

section Running

variable (X : R.Expands)

include X

theorem runs (budget : Nat) : R.Runs (Guarded.runDirective guard setup budget) := by
  induction budget with
  | zero => exact fun n t i hi ht => .throw fun _ => R.weaken (R.inText ht hi.source)
  | succ budget ih =>
    intro n t i hi ht
    unfold Guarded.runDirective
    extract_lets entries argument
    have he (stops : List String) (i : Input) (hi : R.Knows i) :
        Ensures (R.statements n) (entries none stops i) fun p => R.Knows p.2.input :=
      below X ih _ i (Nat.lt_succ_self _) hi n none stops fun _ h => by contradiction
    have ha (i : Input) (hi : R.Begun i) :
        Ensures (R.statement n) (argument i) fun p => R.Begun p.2.input :=
      expanding fun frames hf => X.argument hf hi budget
    have hmisuse (how : Misuse) : R.fails (misuse t i how) := R.weaken (R.inText ht hi.source)
    refine .bind (directive fails_statement ht hi.source) fun d _ => ?_
    cases d with
    | includeFile optional =>
      refine .bind (expanding fun frames _ => locate hi optional ht) ?_
      rintro ⟨found, rest⟩ ⟨hfound, hrest⟩
      cases found with
      | none => exact .pure ⟨List.forall_mem_nil _, hrest.toKnows⟩
      | some p =>
        dsimp only
        refine .bind (meet fails_statement _) fun _ hg => ?_
        refine .bind (expanding fun frames _ => openFile (hfound p rfl)) fun file hfile => ?_
        obtain ⟨text, hread, rfl⟩ := hfile
        obtain ⟨hsource, hlines, hfault⟩ := R.opened hg hread
        have hfile := he [] _ (.ofText hsource hlines hfault)
        exact .bind (inBlock hfile) fun _ h => .pure ⟨h.2, hrest.toKnows⟩
    | ifEqual =>
      refine .bind (ha i hi) ?_
      rintro ⟨left, first⟩ hfirst
      refine .bind (ha _ hfirst) ?_
      rintro ⟨right, second⟩ hsecond
      exact .bind (conditional he hsecond.toKnows ht) fun _ h => .pure h
    | ifTrue =>
      refine .bind (ha i hi) ?_
      rintro ⟨condition, rest⟩ hrest
      dsimp only
      cases Switch.ofTokens condition with
      | none => exact .throw fun _ => hmisuse _
      | some taken =>
        exact .bind (conditional he hrest.toKnows ht) fun _ h => .pure h
    | remove =>
      refine .bind (ha i hi) ?_
      rintro ⟨names, rest⟩ hrest
      refine .bind (meet fails_statement _) fun _ hg => ?_
      exact .bind (remove hi.toKnows ht hg) fun _ _ => .pure ⟨List.forall_mem_nil _, hrest.toKnows⟩
    | inputMode => exact changeMode hi ht
    | otherwise | endIf | calculate | negate | blank => exact .throw fun _ => hmisuse _

/-- The entries that a read under guard makes, and the failure that it ends with. -/
theorem guarded (hi : R.Knows i) :
    Settles R.placed (fun e => ∃ h es, e = .dictionary h es ∧ ∀ e ∈ es, R.entry 0 e)
      (Guarded.read guard setup i).1 := by
  have hentries : Ensures (R.statements 0) (Guarded.entries guard setup i) fun _ => True :=
    (below X (runs X _) _ i (Nat.lt_succ_self _) hi 0 none [] fun _ h => by contradiction).mono
      fun _ _ => trivial
  have h := hentries (Reader.start setup) .nil
  have hread : (Guarded.read guard setup i).1 =
      (exec (Guarded.entries guard setup i) (Reader.start setup)).1.map
        (Reader.made i (exec (Guarded.entries guard setup i) (Reader.start setup)).2) := rfl
  rw [hread]
  generalize exec (Guarded.entries guard setup i) (Reader.start setup) = p at h ⊢
  cases h with
  | ok hs _ => exact .ok ⟨_, _, rfl, Scope.Holds.entries hs⟩
  | error hf => exact .error hf

/-- What holds of every statement holds of a read that no guard stops. -/
theorem read (hi : R.Knows i) (h : ¬setup.ComesTo guard i) :
    Settles R.placed (fun e => ∃ h es, e = .dictionary h es ∧ ∀ e ∈ es, R.entry 0 e)
      (Reader.read setup i).1 :=
  Guarded.read_eq h ▸ guarded X hi

end Running

end Regime

end CaseDict
