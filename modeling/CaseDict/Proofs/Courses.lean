import CaseDict.Proofs.Contexts
import CaseDict.Proofs.Effects
import CaseDict.Proofs.Watched
/-! # Two reads side by side

Two reads of one input take the same course if the operations they are made of follow each other:
expansion, looking up and copying entries, and what is done to the dictionary that is made. The
entries of the two reads need not be the same; they are related by their contents
(`Entry.Alike`). The first read may be stopped by a watch, and the dictionaries and blocks that the
reads go through may be linked in different ways. -/

namespace CaseDict

open Expansion Statement

/-- The headings differ at most in the line that the entries end on. -/
def Heading.ButEnd (h h' : Heading) : Prop := h' = { h with endLine := h'.endLine }

/-- The entries are primitive with the same value or dictionaries with related contents, and their
headings are related. -/
inductive Entry.Alike (heading : Heading → Heading → Prop) (value : List Token → Prop)
    (contents : List Entry → List Entry → Prop) : Entry → Entry → Prop
  | primitive {h h' : Heading} {ts : List Token} (hh : heading h h') (hts : value ts) :
      Alike heading value contents (.primitive h ts) (.primitive h' ts)
  | dictionary {h h' : Heading} {es es' : List Entry} (hh : heading h h') (hes : contents es es') :
      Alike heading value contents (.dictionary h es) (.dictionary h' es')

namespace Vocabulary

variable (V : Vocabulary) (contents : List Entry → List Entry → Prop)

/-- The heading may stand over an entry. -/
def Heads (h : Heading) : Prop := h.isPattern = true → V.patterns

/-- What the two reads make of a statement. -/
abbrev Makes : Entry → Entry → Prop := Entry.Alike (Same V.Heads) V.stands contents

/-- What the two reads find under a name. -/
abbrev Finds : Entry → Entry → Prop :=
  Entry.Alike (fun h h' => h.ButEnd h' ∧ V.Heads h) V.stands contents

end Vocabulary

/-- What references are looked up in while a dictionary is read. -/
def ReadState.surroundings (setup : Setup) (s : ReadState) : Surroundings :=
  ⟨s.scope.frames, setup.settings.environment⟩

/-- Where the name denotes nothing the first read fails, and nothing is said of the second one. -/
structure Link.Loses {σ : Type} (L : Link σ) (setup : Setup) (name : String) : Prop where
  identifier : Text.isIdentifier name = false
  undefined (line : Int) : L.parts (.unplaced (.undefinedVariable name) line)
  tooDeep {t : Token} (ht : t.symbol = .reference name) (source : String) :
    L.parts (Context.tooDeep ⟨setup, []⟩ t source)
  after : L.after = none

/-- The second read, which is `shift` levels further in, comes to its limit of nesting where the
first one does; or it comes to it no sooner, and the failures at the limit part the reads. -/
def Link.Nested {σ : Type} (L : Link σ) (limit limit' : Int) (shift : Nat) : Prop :=
  limit = limit' ∧ shift = 0 ∨ limit + shift ≤ limit' ∧ L.Loose .nestingExceeded

theorem Link.Limited.nested {σ : Type} {L : Link σ} {limit limit' : Int}
    (h : L.Limited .nestingExceeded limit limit') : L.Nested limit limit' 0 :=
  h.imp (fun h => ⟨h, rfl⟩) fun ⟨hle, hl⟩ => ⟨by simpa using hle, hl⟩

/-- The operations of two reads follow each other; the first one is stopped by `watch`, the second
one is `shift` levels of nesting further in, and `S` tells how the reads are linked in each of the
dictionaries and blocks that they go through. -/
structure Courses {ι : Type} (L : Link (List Event)) (S : ι → Link ReadState) (V : Vocabulary)
    (watch : Watch) (contents : List Entry → List Entry → Prop) (setup setup' : Setup)
    (shift : Nat := 0) : Prop where
  setups : setup.Alike L V setup'
  nesting (x : ι) : (S x).Nested setup.settings.maxNesting setup'.settings.maxNesting shift
  /-- What parts expansions parts the reads. -/
  parts {f : Failure} (h : L.parts f) (x : ι) : (S x).parts f
  after (h : L.after = none) (x : ι) : (S x).after = none
  within {f : Failure} {x : ι} (name : String) (h : (S x).parts f) : (S x).parts (f.within name)
  shared (x : ι) : V.Shared (S x)
  shares_within {f : Failure} {x : ι} (name : String) (h : (S x).shares f) :
    (S x).shares (f.within name)
  shares {f : Failure} (h : L.shares f) (x : ι) : (S x).shares f
  stopped {n : Nat} {t : Token} (hw : watch n t = true) (x : ι) :
    (S x).parts Watch.stopped ∧ (S x).after = none
  quoted {n : Nat} {t : Token} {s : String} (ht : t.symbol = .quoted s) (hw : watch n t = false) :
    V.patterns
  expanding {α : Type} {act act' : Context → ExpandM α} {post : α → α → Prop} {x : ι}
    (h : ∀ frames frames', Surroundings.Alike L V ⟨frames, setup.settings.environment⟩
      ⟨frames', setup'.settings.environment⟩ →
        Follows L (act ⟨setup, frames⟩) (act' ⟨setup', frames'⟩) post) :
    Follows (S x) (expanding setup act) (expanding setup' act') post
  finds {x : ι} {s s' : ReadState} (h : (S x).rel s s') (name : String) (hn : V.names name) :
    Option.Rel (V.Finds contents) ((s.surroundings setup).find? name)
        ((s'.surroundings setup').find? name) ∨
      L.Loses setup name ∧ (s.surroundings setup).find? name = none
  finds_after {x : ι} {after : ReadState → Prop} (ha : after ∈ (S x).after) {s : ReadState}
    (h : after s) (name : String) (hn : V.names name) : Option.Rel (V.Finds contents)
      ((s.surroundings setup').find? name) ((s.surroundings setup').find? name)
  /-- The same malformed pattern comes first in both. -/
  checks {es es' : List Entry} (h : contents es es') :
    (Entry.headingsOf es).findSome? Heading.failure? =
      (Entry.headingsOf es').findSome? Heading.failure?
  nil : contents [] []
  inDictionary {α : Type} {m m' : ReadM α} {post : α → α → Prop} {x : ι}
    (h : ∀ y, Follows (S y) m m' post) :
    Follows (S x) (inDictionary m) (inDictionary m') fun p q => post p.1 q.1 ∧ contents p.2 q.2
  inBlock {α : Type} {m m' : ReadM α} {post : α → α → Prop} {x : ι}
    (h : ∀ y, Follows (S y) m m' post) :
    Follows (S x) (inBlock m) (inBlock m') fun p q => post p.1 q.1 ∧ contents p.2 q.2
  place {e e' : Entry} {x : ι} (h : V.Makes contents e e') : Follows (S x) (place e) (place e') Any
  placeAll {es es' : List Entry} {x : ι} (h : contents es es') :
    Follows (S x) (placeAll es) (placeAll es') Any
  /-- Entries are removed before a malformed expression fails. -/
  remove {x : ι} {f : Failure} (hf : (S x).shares f) (what : List Removal) :
    Follows (S x) (do modify fun s => { s with scope := s.scope.remove what }; throw f : ReadM Unit)
      (do modify fun s => { s with scope := s.scope.remove what }; throw f : ReadM Unit) Any
  removeThrough {x : ι} (what : List Removal) :
    Follows (S x) (modify fun s => { s with scope := s.scope.removeThrough what })
      (modify fun s => { s with scope := s.scope.removeThrough what }) Any
  mode {n : Nat} {t : Token} {name : String} {x : ι} (ht : V.plain t)
    (hs : t.symbol = .directive name) (hd : setup'.registry.find? name = some .inputMode)
    (hw : watch (n + 1) t = false) :
    Follows (S x) (modify fun s => { s with mode := setup.settings.mode })
        (modify fun s => { s with mode := setup'.settings.mode }) Any ∧
      ∀ mode : InputMode,
        Follows (S x) (modify fun s => { s with mode }) (modify fun s => { s with mode }) Any

/-- A name that no entry and no variable can have has no value. -/
theorem Surroundings.tokens_of_none {s : Surroundings} {name : String} (hf : s.find? name = none)
    (hi : Text.isIdentifier name = false) (line : Int) :
    s.tokens name line = .error (.unplaced (.undefinedVariable name) line) := by
  rw [tokens, hf]
  dsimp only
  rw [environmentText?, hi]
  rfl

/-! ### Copies -/

theorem Entry.copy_eq (e : Entry) : e.copy = match e.headings.findSome? Heading.failure? with
    | some f => .error f
    | none => .ok e := rfl

/-- Copies of entries are the entries, unless there is a malformed pattern in one of them. -/
theorem exec_copies {σ : Type} (es : List Entry) (s : σ) :
    exec (es.mapM fun e => (liftM e.copy : ExceptT Failure (StateM σ) Entry)) s =
      ((Entry.headingsOf es).findSome? Heading.failure?).elim (.ok es, s) (.error ·, s) := by
  induction es with
  | nil => rfl
  | cons e es ih =>
    rw [List.mapM_cons, exec_bind, exec_lift, Entry.copy_eq, Entry.headingsOf,
      List.findSome?_append]
    cases e.headings.findSome? Heading.failure? with
    | some f => rfl
    | none =>
      dsimp only [Option.none_or]
      rw [exec_bind, ih]
      cases (Entry.headingsOf es).findSome? Heading.failure? <;> rfl

namespace Courses

variable {ι : Type} {L : Link (List Event)} {S : ι → Link ReadState} {V : Vocabulary}
  {watch : Watch} {contents : List Entry → List Entry → Prop} {setup setup' : Setup} {shift : Nat}
  (C : Courses L S V watch contents setup setup' shift) {budget budget' : Nat}
  {run run' : DirectiveRunner} {i : Input} {x : ι}

include C

theorem readTokens (hb : L.Limited .expansionOverflow budget budget') (hi : V.Knows i) :
    Follows (S x) (readTokens setup budget i) (readTokens setup' budget' i)
      (Leaves V (Same fun p => V.stands p.1)) := by
  refine C.expanding fun frames frames' ha => ?_
  obtain ⟨href, hin⟩ := Follows.expansion ⟨setup, frames⟩ ⟨setup', frames'⟩ C.setups ha hb
  refine (Follows.readValue href hin C.setups.shared [] hi).mono fun p q h => h.mono ?_
  rintro ⟨ts, line⟩ _ ⟨rfl, hfit, hnest⟩
  exact ⟨rfl, V.stands_of_value hfit hnest⟩

theorem argument (hb : L.Limited .expansionOverflow budget budget') (hi : V.Knows i) :
    Follows (S x)
      (Statement.expanding setup fun c => readArgument (reference c budget) (inline c budget) i)
      (Statement.expanding setup' fun c => readArgument (reference c budget') (inline c budget') i)
      (Leaves V (Same fun _ => True)) := by
  refine C.expanding fun frames frames' ha => ?_
  obtain ⟨href, hin⟩ := Follows.expansion ⟨setup, frames⟩ ⟨setup', frames'⟩ C.setups ha hb
  refine (Follows.readArgument href hin C.setups.shared hi).mono fun p q h => ?_
  exact h.mono fun _ _ ⟨hsame, _⟩ => ⟨hsame, trivial⟩

/-! ### Entries -/

theorem checked (h : Heading) :
    Follows (S x) (liftM h.checked) (liftM h.checked) (Same fun h' => h' = h) := by
  refine .lift_self (fun h' hok => ⟨rfl, ?_⟩) fun f hf =>
    C.shared x f (V.fails_of (Heading.isDuplicate_of_checked hf))
  unfold Heading.checked at hok
  split at hok
  · exact (Except.ok.inj hok).symm
  · contradiction

theorem readPrimitive (hb : L.Limited .expansionOverflow budget budget') {h : Heading}
    (hh : V.Heads h) (hi : V.Knows i) :
    Follows (S x) (readEntry.readPrimitive setup budget h i)
      (readEntry.readPrimitive setup' budget' h i) (Leaves V (V.Makes contents)) := by
  unfold Statement.readEntry.readPrimitive
  refine .bind (C.readTokens hb hi) ?_
  rintro ⟨⟨ts, endLine⟩, rest⟩ ⟨⟨_, _⟩, _⟩ ⟨⟨⟨rfl, rfl⟩, hts⟩, rfl, hrest⟩
  refine .bind_same (C.checked _) fun h' hh' => ?_
  exact .pure ⟨.primitive ⟨rfl, hh' ▸ hh⟩ hts, rfl, hrest⟩

/-! ### References -/

/-- The reads go on with what they find under a name, unless the first one fails there. -/
theorem surroundings_bind {α β : Type} {k : Surroundings → ReadM α} {k' : Surroundings → ReadM β}
    {post : α → β → Prop} {name : String} (hn : V.names name)
    (hk : ∀ around around' : Surroundings,
      Option.Rel (V.Finds contents) (around.find? name) (around'.find? name) →
        Follows (S x) (k around) (k' around') post)
    (hl : L.Loses setup name → ∀ s : ReadState, (s.surroundings setup).find? name = none →
      ∃ f s', exec (k (s.surroundings setup)) s = (.error f, s') ∧ L.parts f) :
    Follows (S x) (surroundings setup >>= k) (surroundings setup' >>= k') post where
  ends s s' hs := by
    have hrun (setup : Setup) (s : ReadState) :
        exec (surroundings setup) s = (.ok (s.surroundings setup), s) := rfl
    rw [exec_bind, exec_bind, hrun, hrun]
    rcases C.finds hs name hn with hfind | ⟨hlost, hnone⟩
    · exact (hk _ _ hfind).ends s s' hs
    · obtain ⟨f, t, hx, hf⟩ := hl hlost s hnone
      dsimp only
      rw [hx]
      exact .parted (C.parts hf x) (.of_none (C.after hlost.after x))
  stays after ha s hs := (hk _ _ (C.finds_after ha hs name hn)).stays after ha s hs

omit C in
theorem entry_meets {σ : Type} {S : Link σ} {s s' : Surroundings} {P : Entry → Entry → Prop}
    {name : String} (hS : V.Shared S) (h : Option.Rel P (s.find? name) (s'.find? name))
    (line : Int) : S.Meets P (s.entry name line) (s'.entry name line) := by
  unfold Surroundings.entry
  generalize s.find? name = found, s'.find? name = found' at h
  cases h with
  | some h => exact .ok h
  | none => exact .error (hS _ (V.fails_of rfl))

omit C in
theorem copies {S : Link ReadState} (hS : V.Shared S) {es es' : List Entry}
    (hchecks : (Entry.headingsOf es).findSome? Heading.failure? =
      (Entry.headingsOf es').findSome? Heading.failure?) (hes : contents es es') :
    Follows S (es.mapM fun e => (liftM e.copy : ReadM Entry)) (es'.mapM fun e => liftM e.copy)
      contents where
  ends s s' hs := by
    rw [exec_copies, exec_copies, ← hchecks]
    cases hf : (Entry.headingsOf es).findSome? Heading.failure? with
    | none => exact .ok hes hs
    | some f =>
      obtain ⟨h, -, hfail⟩ := List.exists_of_findSome?_eq_some hf
      exact .error (hS f (V.fails_of (Heading.isDuplicate_of_failure? hfail)))
  stays after ha s hs := fun after' ha' => by
    obtain rfl := Option.some.inj (ha.symm.trans ha')
    rw [exec_copies]
    cases (Entry.headingsOf es').findSome? Heading.failure? with
    | none => exact ⟨hs, fun b hb => ⟨es, Except.ok.inj hb ▸ hes⟩⟩
    | some f => exact ⟨hs, fun b hb => by contradiction⟩

theorem splice {name : String} (hn : V.names name) {t : Token} (hi : V.Knows i) :
    Follows (S x) (splice setup name t i) (splice setup' name t i) (Leaves V contents) := by
  unfold Statement.splice
  refine C.surroundings_bind hn (fun around around' hfind => ?_) fun hl s hs => ?_
  · refine .bind (.lift (entry_meets (C.shared x) hfind t.line)) fun target target' htarget => ?_
    cases htarget with
    | primitive => exact .throws (C.shared x) rfl
    | dictionary _ hes =>
      have hcopies := copies (C.shared x) (C.checks hes) hes
      refine .bind_same (.next (C.shared x) hi) fun found hfound => ?_
      split
      · next rest =>
        exact .bind hcopies fun es es' hes => .pure ⟨hes, rfl, (hfound _ rest rfl).2⟩
      · exact .bind hcopies fun es es' hes => .pure ⟨hes, rfl, hi⟩
  · refine ⟨_, s, ?_, hl.undefined t.line⟩
    rw [exec_bind, exec_lift, Surroundings.entry, hs]

theorem copy_meets {h h' : Heading} {es es' : List Entry} (hh : h.ButEnd h')
    (hes : contents es es') :
    (S x).Meets (fun e e' => e = .dictionary h es ∧ e' = .dictionary h' es')
      (Entry.dictionary h es).copy (Entry.dictionary h' es').copy := by
  have hfailure : h'.failure? = h.failure? := by
    rw [hh]
    rfl
  rw [Entry.copy_eq, Entry.copy_eq, Entry.headings, Entry.headings, List.findSome?_cons,
    List.findSome?_cons, hfailure, ← C.checks hes]
  cases hf : h.failure? with
  | some f => exact .error (C.shared x f (V.fails_of (Heading.isDuplicate_of_failure? hf)))
  | none =>
    cases hfs : (Entry.headingsOf es).findSome? Heading.failure? with
    | none => exact .ok ⟨rfl, rfl⟩
    | some f =>
      obtain ⟨h, -, hfail⟩ := List.exists_of_findSome?_eq_some hfs
      exact .error (C.shared x f (V.fails_of (Heading.isDuplicate_of_failure? hfail)))

theorem copyDictionary {h : Heading} {name : String} {t : Token} {target target' : Heading}
    {es es' : List Entry} (hh : target.ButEnd target' ∧ V.Heads target) (hes : contents es es')
    (hi : V.Knows i) :
    Follows (S x) (copyDictionary h name t target es i) (copyDictionary h name t target' es' i)
      (Leaves V (V.Makes contents)) := by
  obtain ⟨hend, hheads⟩ := hh
  have hkeyword : Heading.ButEnd { target with keyword := h.keyword }
      { target' with keyword := h.keyword } := by
    rw [hend]
    rfl
  unfold Statement.copyDictionary
  refine .bind_same (.next (C.shared x) hi) fun found hfound => ?_
  extract_lets copied copied'
  have hcopied (p : Taken Int i) (hp : V.Knows p.2.input) :
      Follows (S x) (copied p) (copied' p) (Leaves V (V.Makes contents)) := by
    refine .bind (.lift (C.copy_meets hkeyword hes)) ?_
    rintro _ _ ⟨rfl, rfl⟩
    refine .pure ⟨.dictionary ⟨?_, hheads⟩ hes, rfl, hp⟩
    rw [hend]
    rfl
  rcases found with _ | ⟨⟨y, l⟩, rest⟩
  · exact .bind_same (.pure ⟨rfl, hi⟩) fun p hp => hcopied p hp
  · have hrest := (hfound _ rest rfl).2
    cases y with
    | terminator => exact .bind_same (.pure ⟨rfl, hrest⟩) fun p hp => hcopied p hp
    | _ => exact .throws_bind (C.shared x) rfl

omit C in
/-- A reference that denotes nothing has no value. -/
theorem exec_readPrimitive_lost {name : String} (hl : L.Loses setup name)
    {line : Int} {rest : i.Less} (hi : i.next = .ok (some (⟨.reference name, line⟩, rest)))
    (h : Heading) {s : ReadState} (hs : (s.surroundings setup).find? name = none) :
    ∃ f s', exec (readEntry.readPrimitive setup budget h i) s = (.error f, s') ∧ L.parts f := by
  let c : Context := ⟨setup, s.scope.frames⟩
  let t : Token := ⟨.reference name, line⟩
  have hreference : ∃ f, L.parts f ∧
      exec (reference c budget t rest.input.name) s.log = (.error f, s.log) := by
    cases budget with
    | zero => exact ⟨_, hl.tooDeep rfl _, rfl⟩
    | succ n =>
      refine ⟨_, hl.undefined line, ?_⟩
      have htokens : c.surroundings.tokens t.symbol.value t.line =
          .error (.unplaced (.undefinedVariable name) line) :=
        Surroundings.tokens_of_none hs hl.identifier line
      rw [reference, exec_bind, exec_lift, htokens]
  obtain ⟨f, hf, hx⟩ := hreference
  refine ⟨f, s, ?_, hf⟩
  have hvalue : exec (readValue (reference c budget) (inline c budget) [] i) s.log =
      (.error f, s.log) := by
    rw [readValue.eq_def, exec_bind, exec_lift, hi]
    dsimp only
    rw [if_neg (by simp), exec_bind, exec_lift]
    dsimp only [track]
    rw [exec_bind, expandToken, exec_bind, hx]
  rw [readEntry.readPrimitive, exec_bind, Statement.readTokens, exec_expanding, hvalue]

/-- At the limit of nesting the reads meet or part. -/
theorem ite_nesting {α β γ : Type} {n : Nat} {line : Int} {source : String} {m : ReadM α}
    {m' : ReadM β} {k : γ → ReadM α} {k' : γ → ReadM β} {post : α → β → Prop}
    (h : Follows (S x) m m' post) :
    Follows (S x)
      (if setup.settings.maxNesting ≤ n then
        throw (.inText (.nestedTooDeep setup.settings.maxNesting) line source) >>= k else m)
      (if setup'.settings.maxNesting ≤ (n + shift : Nat) then
        throw (.inText (.nestedTooDeep setup'.settings.maxNesting) line source) >>= k' else m')
      post := by
  rcases C.nesting x with ⟨hlimit, rfl⟩ | ⟨hle, hl⟩
  · rw [hlimit, Nat.add_zero]
    split
    · exact .throws_bind (C.shared x) rfl
    · exact h
  · split
    · exact .left_bind (hl.parts rfl) hl.after
    · rwa [if_neg (by omega)]

omit C in
/-- Inputs with fewer than `size` tokens are read side by side. -/
def Below (S : ι → Link ReadState) (V : Vocabulary) (watch : Watch) (setup setup' : Setup)
    (shift budget budget' : Nat) (run run' : DirectiveRunner) (size : Nat) : Prop :=
  ∀ (i : Input), i.size < size → V.Knows i → ∀ x n closing stops,
    Follows (S x) (Watched.readEntries watch setup budget run n closing stops i)
      (readEntries setup' budget' run' (n + shift) closing stops i) (Leaves V (Same fun _ => True))

theorem readEntry (hb : L.Limited .expansionOverflow budget budget') {n : Nat} {h : Heading}
    (hh : V.Heads h) (hi : V.Knows i)
    (hbelow : Below S V watch setup setup' shift budget budget' run run' i.size) :
    Follows (S x) (Watched.readEntry watch setup budget run n h i)
      (readEntry setup' budget' run' (n + shift) h i) (Leaves V (V.Makes contents)) := by
  rw [Watched.readEntry.eq_def, readEntry.eq_def setup']
  have hnil : V.stands [] := V.stands_of_value (List.forall_mem_nil _) fun _ => .nil
  have hnext : Follows (S x) (liftM i.next) (liftM i.next) (Same fun found => i.next = .ok found) :=
    .lift_same fun f hf => C.shared x f (hi.next_error hf)
  refine .bind_same hnext fun found hfound => ?_
  rcases found with _ | ⟨⟨y, line⟩, rest⟩
  · exact .bind_same (C.checked _) fun h' hh' => .pure ⟨.primitive ⟨rfl, hh' ▸ hh⟩ hnil, rfl, hi⟩
  obtain ⟨ht, hrest⟩ := hi.next hfound
  cases y with
  | opener b =>
    cases b with
    | brace =>
      refine C.ite_nesting ?_
      refine .bind_same (C.checked h) fun h' hh' => ?_
      rw [Nat.add_right_comm]
      refine .bind (C.inDictionary fun y => hbelow rest.input rest.lt hrest y _ _ _) ?_
      rintro ⟨⟨ending, more⟩, es⟩ ⟨⟨_, _⟩, es'⟩ ⟨⟨⟨rfl, -⟩, rfl, hmore⟩, hes⟩
      exact .pure ⟨.dictionary ⟨rfl, hh' ▸ hh⟩ hes, rfl, hmore⟩
    | round | square => exact C.readPrimitive hb hh hi
  | reference name =>
    have hn : V.names name := V.names_of_plain ht (List.mem_singleton_self name)
    refine C.surroundings_bind hn (fun around around' hfind => ?_) fun hl s hs => ?_
    · generalize around.find? name = target, around'.find? name = target' at hfind
      cases hfind with
      | none => exact C.readPrimitive hb hh hi
      | some he =>
        cases he with
        | primitive => exact C.readPrimitive hb hh hi
        | dictionary htarget hes =>
          refine .bind (C.copyDictionary htarget hes hrest) ?_
          rintro ⟨e, more⟩ ⟨e', _⟩ ⟨he, rfl, hmore⟩
          exact .pure ⟨he, rfl, hmore⟩
    · rw [hs]
      exact exec_readPrimitive_lost hl hfound h hs
  | _ => exact C.readPrimitive hb hh hi

omit C in
/-- What directives bring follows each other. -/
def Runs (S : ι → Link ReadState) (V : Vocabulary) (watch : Watch)
    (contents : List Entry → List Entry → Prop) (shift budget : Nat) (run run' : DirectiveRunner) :
    Prop :=
  ∀ x n t i name, t.symbol = .directive name → V.plain t → V.Knows i → watch budget t = false →
    Follows (S x) (run n t i) (run' (n + shift) t i) (Leaves V contents)

section Statements

variable (hb : L.Limited .expansionOverflow budget budget')
  (hrun : Runs S V watch contents shift budget run run')

include hb hrun

theorem readStatement {n : Nat} {t : Token} (ht : V.plain t) (hi : V.Knows i)
    (hbelow : Below S V watch setup setup' shift budget budget' run run' i.size) :
    Follows (S x) (Watched.readStatement watch setup budget run n t i)
      (readStatement setup' budget' run' (n + shift) t i) (Leaves V Any) := by
  rw [Watched.readStatement.eq_def, readStatement.eq_def setup']
  split
  · next hw => exact .left (C.stopped hw x).1 (C.stopped hw x).2
  next hw =>
  rw [Bool.not_eq_true] at hw
  refine .adapt ?_ (fun f hf => C.shares_within _ hf) fun f hf => C.within _ hf
  obtain ⟨y, line⟩ := t
  cases y with
  | directive name =>
    refine .bind (hrun x n _ i name rfl ht hi hw) ?_
    rintro ⟨es, rest⟩ ⟨es', _⟩ ⟨hes, rfl, hrest⟩
    exact .bind (C.placeAll hes) fun _ _ _ => .pure ⟨trivial, rfl, hrest⟩
  | reference name =>
    refine .bind (C.splice (V.names_of_plain ht (List.mem_singleton_self name)) hi) ?_
    rintro ⟨es, rest⟩ ⟨es', _⟩ ⟨hes, rfl, hrest⟩
    exact .bind (C.placeAll hes) fun _ _ _ => .pure ⟨trivial, rfl, hrest⟩
  | word s =>
    have hh : V.Heads ⟨s, false, line, -1⟩ := fun hp => by contradiction
    refine .bind (C.readEntry hb hh hi hbelow) ?_
    rintro ⟨e, rest⟩ ⟨e', _⟩ ⟨he, rfl, hrest⟩
    exact .bind (C.place he) fun _ _ _ => .pure ⟨trivial, rfl, hrest⟩
  | quoted s =>
    have hh : V.Heads ⟨s, true, line, -1⟩ := fun _ => C.quoted rfl hw
    refine .bind (C.readEntry hb hh hi hbelow) ?_
    rintro ⟨e, rest⟩ ⟨e', _⟩ ⟨he, rfl, hrest⟩
    exact .bind (C.place he) fun _ _ _ => .pure ⟨trivial, rfl, hrest⟩
  | _ => exact .throws (C.shared x) rfl

theorem below (size : Nat) : Below S V watch setup setup' shift budget budget' run run' size := by
  -- A statement and what comes after it are read from less input, those of a dictionary too.
  induction size with
  | zero => intro i h; omega
  | succ size ih =>
    intro i hlt hi x n closing stops
    rw [Watched.readEntries.eq_def, readEntries.eq_def setup']
    refine .bind_same (.next (C.shared x) hi) fun found hfound => ?_
    rcases found with _ | ⟨t, rest⟩
    · dsimp only
      split
      · exact .throws (C.shared x) rfl
      · exact .pure ⟨⟨rfl, trivial⟩, rfl, hi⟩
    · dsimp only
      obtain ⟨ht, hrest⟩ := hfound t rest rfl
      have hless := rest.lt
      split
      · split
        · exact .pure ⟨⟨rfl, trivial⟩, rfl, hrest⟩
        · exact .throws (C.shared x) rfl
      split
      · refine .bind (ih rest.input (by omega) hrest x _ _ _) ?_
        rintro ⟨ending, more⟩ ⟨_, _⟩ ⟨⟨rfl, -⟩, rfl, hmore⟩
        exact .pure ⟨⟨rfl, trivial⟩, rfl, hmore⟩
      split
      · exact .pure ⟨⟨rfl, trivial⟩, rfl, hrest⟩
      · refine .bind (C.readStatement hb hrun ht hrest fun j hj => ih j (by omega)) ?_
        rintro ⟨_, more⟩ ⟨_, _⟩ ⟨-, rfl, hmore⟩
        have hle := more.le
        refine .bind (ih more.input (by omega) hmore x _ _ _) ?_
        rintro ⟨ending, last⟩ ⟨_, _⟩ ⟨⟨rfl, -⟩, rfl, hlast⟩
        exact .pure ⟨⟨rfl, trivial⟩, rfl, hlast⟩

theorem readEntries (hi : V.Knows i) (n : Nat) (closing : Option Heading) (stops : List String) :
    Follows (S x) (Watched.readEntries watch setup budget run n closing stops i)
      (readEntries setup' budget' run' (n + shift) closing stops i)
      (Leaves V (Same fun _ => True)) :=
  C.below hb hrun _ i (Nat.lt_succ_self _) hi x n closing stops

end Statements

/-! ### Directives -/

theorem removing {t : Token} {names : List Token} :
    Follows (S x) (Statement.remove t i names) (Statement.remove t i names) Any := by
  unfold Statement.remove
  extract_lets wanted removing
  split
  · exact .throws_bind (C.shared x) rfl
  · dsimp only [removing]
    split
    · exact C.removeThrough _
    · next hread =>
      exact C.remove (C.shared x _ (V.fails_of (Removal.isDuplicate_of_readAll hread))) _

theorem changeMode {n : Nat} {t : Token} {name : String} (ht : V.plain t)
    (hs : t.symbol = .directive name) (hd : setup'.registry.find? name = some .inputMode)
    (hw : watch (n + 1) t = false) (hi : V.Knows i) :
    Follows (S x) (changeMode setup t i) (changeMode setup' t i) (Leaves V contents) := by
  obtain ⟨hdefault, hmode⟩ := C.mode (x := x) ht hs hd hw
  unfold Statement.changeMode
  refine .bind_same (.expect (C.shared x) hi _) fun ⟨argument, rest⟩ ⟨_, hrest⟩ => ?_
  dsimp only
  split
  · have hset {mode mode' : InputMode}
        (h : Follows (S x) (modify fun s => { s with mode })
          (modify fun s => { s with mode := mode' }) Any) :
        Follows (S x) (do modify fun s => { s with mode }; return ([], rest.toRest) : ReadM _)
          (do modify fun s => { s with mode := mode' }; return ([], rest.toRest) : ReadM _)
          (Leaves V contents) :=
      .bind h fun _ _ _ => .pure ⟨C.nil, rfl, hrest⟩
    split
    · exact hset hdefault
    · split
      · next mode _ => exact hset (hmode mode)
      · exact .throws_bind (C.shared x) rfl
  · exact .throws (C.shared x) rfl

end Courses

/-! ### Conditionals -/

theorem FailsWith.inBlock {α : Type} {f : Failure} {m : ReadM α} (h : FailsWith f m) :
    FailsWith f (inBlock m) := fun s => by
  obtain ⟨⟨scope, mode, log⟩, hx⟩ := h { s with scope := .staged [] s.scope }
  rw [exec_inBlock, hx]
  cases scope <;> exact ⟨_, rfl⟩

theorem Watched.failsWith_readEntries {watch : Watch} {setup : Setup} {budget : Nat}
    {run : DirectiveRunner} {n : Nat} {closing : Option Heading} {stops : List String} {i : Input}
    {f : Failure} (hf : i.next = .error f) :
    FailsWith f (Watched.readEntries watch setup budget run n closing stops i) := by
  rw [Watched.readEntries.eq_def, hf]
  exact FailsWith.throw.bind

/-- A branch that is passed over leaves known input. -/
theorem Vocabulary.Knows.skipBranch {σ : Type} {S : Link σ} {V : Vocabulary} {own : Directive}
    {t : Token} {allow : Bool} {inner : Nat} {i : Input} (hi : V.Knows i) (hS : V.Shared S) :
    S.Meets (Same fun p => V.Knows p.2.input) (skipBranch own t allow inner i)
      (skipBranch own t allow inner i) := by
  induction hn : i.size using Nat.strongRecOn generalizing i inner with
  | ind n ih =>
    rw [skipBranch.eq_def]
    refine .bind (hi.next_meets hS) ?_
    rintro found _ ⟨rfl, hfound⟩
    split
    · exact .error (hS _ (V.fails_of rfl))
    · next found rest =>
      have hrest := (hfound _ rest rfl).2
      extract_lets skip
      have hskip (inner : Nat) : S.Meets (Same fun p => V.Knows p.2.input) (skip inner)
          (skip inner) := by
        refine .bind (ih _ (hn ▸ rest.lt) hrest rfl) ?_
        rintro ⟨ending, more⟩ _ ⟨rfl, hmore⟩
        exact .ok ⟨rfl, hmore⟩
      split
      · exact hskip _
      split
      · cases inner with
        | zero => exact .ok ⟨rfl, hrest⟩
        | succ inner => exact hskip _
      split
      · split
        · exact .ok ⟨rfl, hrest⟩
        · exact .error (hS _ (V.fails_of rfl))
      · exact hskip _

namespace Courses

variable {ι : Type} {L : Link (List Event)} {S : ι → Link ReadState} {V : Vocabulary}
  {watch : Watch} {contents : List Entry → List Entry → Prop} {setup setup' : Setup} {shift : Nat}
  (C : Courses L S V watch contents setup setup' shift) {i : Input} {x : ι}

include C

theorem conditional {entries entries' : List String → (i : Input) → ReadM (Taken (Option Token) i)}
    (he : ∀ x stops i, V.Knows i →
      Follows (S x) (entries stops i) (entries' stops i) (Leaves V (Same fun _ => True)))
    {own : Directive} {t : Token} {taken : Bool} (hi : V.Knows i) :
    Follows (S x) (conditional entries own t taken i) (conditional entries' own t taken i)
      (Leaves V contents) := by
  unfold Statement.conditional
  split
  · refine .bind (C.inBlock fun y => he y _ _ hi) ?_
    rintro ⟨⟨ending, rest⟩, es⟩ ⟨⟨_, _⟩, es'⟩ ⟨⟨⟨rfl, -⟩, rfl, hrest⟩, hes⟩
    dsimp only
    split
    · exact .throws (C.shared x) rfl
    · split
      · exact .bind_same (.lift (hrest.skipBranch (C.shared x)))
          fun _ hmore => .pure ⟨hes, rfl, hmore⟩
      · exact .pure ⟨hes, rfl, hrest⟩
  · refine .bind_same (.lift (hi.skipBranch (C.shared x))) fun ⟨ending, rest⟩ hrest => ?_
    dsimp only
    split
    · refine .bind (C.inBlock fun y => he y _ _ hrest) ?_
      rintro ⟨⟨ending, more⟩, es⟩ ⟨⟨_, _⟩, es'⟩ ⟨⟨⟨rfl, -⟩, rfl, hmore⟩, hes⟩
      dsimp only
      split
      · exact .throws (C.shared x) rfl
      · split
        · exact .throws (C.shared x) rfl
        · exact .pure ⟨hes, rfl, hmore⟩
    · exact .pure ⟨C.nil, rfl, hrest⟩

theorem limited {ν : Type} [LE ν] {c : ErrorClass} {limit limit' : ν}
    (h : L.Limited c limit limit') :
    (S x).Limited c limit limit' :=
  h.imp_right fun ⟨hle, hl⟩ => ⟨hle, fun hc => C.parts (hl.parts hc) x, C.after hl.after x⟩

theorem meets {α β : Type} {post : α → β → Prop} {r : Except Failure α} {r' : Except Failure β}
    (h : L.Meets post r r') : (S x).Meets post r r' := by
  cases h with
  | ok h => exact .ok h
  | error hf => exact .error (C.shares hf x)
  | parted hf hl => exact .parted (C.parts hf x) (C.after hl x)

theorem runs {budget budget' : Nat} (hb : L.Limited .expansionOverflow budget budget') :
    Runs S V watch contents shift budget (Watched.runDirective watch setup budget)
      (runDirective setup' budget') := by
  induction budget generalizing budget' with
  | zero =>
    intro x n t i name ht hplain hi _
    refine .tooDeep rfl (C.shared x _ (V.fails_of rfl)) (C.limited C.setups.depth) (C.limited hb)
      fun hd h0 => ?_
    subst h0
    rw [Context.tooDeep, hd]
    rfl
  | succ budget ih =>
    obtain ⟨k, rfl, hk⟩ := hb.of_succ
    intro x n t i name ht hplain hi hw
    unfold Watched.runDirective Statement.runDirective
    extract_lets entries argument entries' argument'
    have he (y : ι) (stops : List String) (i : Input) (hi : V.Knows i) :
        Follows (S y) (entries none stops i) (entries' none stops i)
          (Leaves V (Same fun _ => True)) := C.readEntries hk (ih hk) hi _ _ _
    have ha (i : Input) (hi : V.Knows i) :
        Follows (S x) (argument i) (argument' i) (Leaves V (Same fun _ => True)) :=
      C.argument hk hi
    refine .bind_same (.lift (C.meets (C.setups.directive _ _ _))) fun d hd => ?_
    rw [ht] at hd
    cases d with
    | includeFile optional =>
      obtain ⟨-, hfiles⟩ := C.setups.includes hplain ht hd
      refine .bind (C.expanding fun _ _ ha => Follows.locate C.setups ha optional t hi) ?_
      rintro ⟨found, rest⟩ ⟨_, _⟩ ⟨⟨rfl, -⟩, rfl, hrest⟩
      dsimp only
      split
      · exact .pure ⟨C.nil, rfl, hrest⟩
      · next p =>
        refine .bind (C.expanding fun _ _ _ => Follows.openFile (hfiles p)) ?_
        rintro file file' (⟨rfl, hfile⟩ | ⟨⟨f, hf, hparts⟩, hafter⟩)
        · refine .bind (C.inBlock fun y => he y [] file hfile) ?_
          rintro ⟨_, es⟩ ⟨_, es'⟩ ⟨-, hes⟩
          exact .pure ⟨hes, rfl, hrest⟩
        · exact (Watched.failsWith_readEntries hf).inBlock.bind.parts (C.parts hparts x)
            (C.after hafter x)
    | ifEqual =>
      refine .bind (ha i hi) ?_
      rintro ⟨left, first⟩ ⟨_, _⟩ ⟨⟨rfl, -⟩, rfl, hfirst⟩
      refine .bind (ha _ hfirst) ?_
      rintro ⟨right, second⟩ ⟨_, _⟩ ⟨⟨rfl, -⟩, rfl, hsecond⟩
      refine .bind (C.conditional he hsecond) ?_
      rintro ⟨es, more⟩ ⟨es', _⟩ ⟨hes, rfl, hmore⟩
      exact .pure ⟨hes, rfl, hmore⟩
    | ifTrue =>
      refine .bind (ha i hi) ?_
      rintro ⟨condition, rest⟩ ⟨_, _⟩ ⟨⟨rfl, -⟩, rfl, hrest⟩
      dsimp only
      cases Switch.ofTokens condition with
      | none => exact .throws (C.shared x) rfl
      | some taken =>
        refine .bind (C.conditional he hrest) ?_
        rintro ⟨es, more⟩ ⟨es', _⟩ ⟨hes, rfl, hmore⟩
        exact .pure ⟨hes, rfl, hmore⟩
    | remove =>
      refine .bind (ha i hi) ?_
      rintro ⟨names, rest⟩ ⟨_, _⟩ ⟨⟨rfl, -⟩, rfl, hrest⟩
      exact .bind C.removing fun _ _ _ => .pure ⟨C.nil, rfl, hrest⟩
    | inputMode => exact C.changeMode hplain ht hd hw hi
    | otherwise | endIf | calculate | negate | blank => exact .throws (C.shared x) rfl

/-- Statements are read side by side. -/
theorem entries {depth : Int} (hb : L.Limited .expansionOverflow (setup.settings.budget depth)
      (setup'.settings.budget depth)) (hi : V.Knows i) (nesting : Nat)
    (closing : Option Heading) (stops : List String) :
    Follows (S x) (Watched.entries watch setup depth nesting closing stops i)
      (Reader.entries setup' depth (nesting + shift) closing stops i)
      (Leaves V (Same fun _ => True)) :=
  C.readEntries hb (C.runs hb) hi nesting closing stops

end Courses

end CaseDict
