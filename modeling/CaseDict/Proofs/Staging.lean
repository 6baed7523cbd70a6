import CaseDict.Proofs.Inward
import CaseDict.Proofs.Overwriting
/-! # A block beside its entries in place

In the mode `retain` the entries of a block come behind those of the dictionary that the block is
for. If no pattern stands as a keyword, names that lead inwards denote the same in the block, and
around it, as they do where its entries stand in that dictionary already
(`Lookup.scopedEntry_staged`), and what is removed goes from both. So statements that are read as a
block are read in place into the same (`Statement.exec_inPlace`). -/

namespace CaseDict

open Expansion Statement Entry

/-! ### Looking names up -/

namespace Lookup

/-- Instead of a block the second chain has its entries behind those of the frame below. -/
inductive Staged : List (Frame Entry) → List (Frame Entry) → Prop
  | block {es old : List Entry} {transparent : Bool} {fs : List (Frame Entry)} :
      Staged (⟨es, true⟩ :: ⟨old, transparent⟩ :: fs) (⟨old ++ es, transparent⟩ :: fs)
  | inside (f : Frame Entry) {fs fs' : List (Frame Entry)} (h : Staged fs fs') :
      Staged (f :: fs) (f :: fs')

variable {es old : List Entry} {fs fs' : List (Frame Entry)}

/-- The newer entries count first. -/
theorem find_append (hold : AllPlain old) (hes : AllPlain es) (name : String) :
    find inspection name (old ++ es) = (find inspection name es).or (find inspection name old) := by
  rw [find_of_plain hold, find_of_plain hes, find_of_plain (List.forall_mem_append.mpr ⟨hold, hes⟩),
    newest?, List.reverse_append, List.find?_append]
  rfl

theorem Staged.findOutward (h : Staged fs fs') (hfs : ∀ f ∈ fs, AllPlain f.entries)
    (name : String) : findOutward inspection name fs' = findOutward inspection name fs := by
  induction h with
  | block =>
    obtain ⟨hes, hfs⟩ := List.forall_mem_cons.mp hfs
    obtain ⟨hold, -⟩ := List.forall_mem_cons.mp hfs
    rw [Lookup.findOutward, Lookup.findOutward, List.findSome?_cons, List.findSome?_cons,
      List.findSome?_cons, find_append hold hes]
    cases find inspection name _ <;> rfl
  | inside f _ ih =>
    have ih := ih (List.forall_mem_cons.mp hfs).2
    rw [Lookup.findOutward, List.findSome?_cons, Lookup.findOutward, List.findSome?_cons]
    rw [Lookup.findOutward, Lookup.findOutward] at ih
    rw [ih]

/-- Names that lead inwards denote the same. -/
theorem scopedEntry_staged (h : Staged fs fs') (hfs : ∀ f ∈ fs, AllPlain f.entries) {name : String}
    (hname : leadsOutwards name = false) :
    scopedEntry inspection fs' name = scopedEntry inspection fs name := by
  rw [scopedEntry_inward _ _ hname, scopedEntry_inward _ _ hname]
  simp only [h.findOutward hfs]

end Lookup

namespace Entry

/-- Entries without patterns correspond to themselves. -/
theorem Plain.finds {e : Entry} (h : e.Plain) :
    (Vocabulary.freely False).Finds (Same AllPlain) e e := by
  have hhead : (Vocabulary.freely False).Heads e.head := fun hp =>
    absurd (h.head.symm.trans hp) Bool.false_ne_true
  cases e with
  | primitive => exact .primitive ⟨rfl, hhead⟩ (plain_primitive.mp h).2
  | dictionary => exact .dictionary ⟨rfl, hhead⟩ ⟨rfl, (plain_dictionary.mp h).2⟩

/-- What both reads make is the same, without patterns. -/
theorem plain_of_makes {e e' : Entry} (h : (Vocabulary.freely False).Makes (Same AllPlain) e e') :
    e = e' ∧ e.Plain := by
  obtain ⟨⟨rfl, hh⟩, hts⟩ | ⟨⟨rfl, hh⟩, rfl, hes⟩ := h
  · exact ⟨rfl, plain_primitive.mpr ⟨Bool.eq_false_iff.mpr hh, hts⟩⟩
  · exact ⟨rfl, plain_dictionary.mpr ⟨Bool.eq_false_iff.mpr hh, hes⟩⟩

theorem AllPlain.same_nil : Same AllPlain [] [] := ⟨rfl, List.forall_mem_nil _⟩

theorem AllPlain.same_filter {es es' : List Entry} (h : Same AllPlain es es')
    (keep : String → Bool) :
    Same AllPlain (es.filter fun e => keep e.keyword) (es'.filter fun e => keep e.keyword) :=
  ⟨by rw [h.1], forall_mem_filter h.2 _⟩

end Entry

/-! ### Scopes -/

namespace Removal

theorem applyAll_concat (what : List Removal) (es es' : List Entry) :
    applyAll what (es ++ es') = applyAll what es ++ applyAll what es' := by
  induction what generalizing es es' with
  | nil => rfl
  | cons r what ih =>
    have hr : r.apply (es ++ es') = r.apply es ++ r.apply es' := List.filter_append ..
    exact (congrArg (applyAll what) hr).trans (ih _ _)

end Removal

namespace Scope

/-- No keyword in the scope or around it is a pattern, and all values are literal. -/
structure Plain (s : Scope) : Prop where
  made : s.Carries fun _ => True
  frames : ∀ f ∈ s.frames, AllPlain f.entries

variable {s : Scope} {es : List Entry}

/-- The entries are those of the innermost frame. -/
theorem Carries.frames_eq {V : List Token → Prop} (h : s.Carries V) : ∃ transparent fs,
    s.frames = ⟨s.entries, transparent⟩ :: fs ∧
      ∀ es, (s.refill es).frames = ⟨es, transparent⟩ :: fs := by
  cases s with
  | stored => contradiction
  | fresh | staged => exact ⟨_, _, rfl, fun _ => rfl⟩

/-- Entries are removed from the innermost dictionary or block and from what is below. -/
theorem Carries.removeThrough_refill {V : List Token → Prop} (h : s.Carries V) (es : List Entry)
    (what : List Removal) : (s.refill es).removeThrough what =
      (s.removeThrough what).refill (Removal.applyAll what es) := by
  cases s with
  | stored => contradiction
  | fresh | staged => rfl

theorem Carries.entries_removeThrough {V : List Token → Prop} (h : s.Carries V)
    (what : List Removal) : (s.removeThrough what).entries = Removal.applyAll what s.entries := by
  cases s with
  | stored => contradiction
  | fresh | staged => rfl

theorem Plain.entries (h : s.Plain) : AllPlain s.entries := by
  obtain ⟨transparent, fs, hframes, -⟩ := h.made.frames_eq
  exact h.frames ⟨s.entries, transparent⟩ (hframes ▸ List.mem_cons_self)

theorem Plain.refill (h : s.Plain) (hes : AllPlain es) : (s.refill es).Plain where
  made := h.made.refill fun _ _ _ _ => trivial
  frames := by
    obtain ⟨transparent, fs, hframes, hrefill⟩ := h.made.frames_eq
    have hfs := h.frames
    rw [hframes, List.forall_mem_cons] at hfs
    rw [hrefill]
    exact List.forall_mem_cons.mpr ⟨hes, hfs.2⟩

theorem Plain.staged (h : s.Plain) (hes : AllPlain es) : (Scope.staged es s).Plain :=
  ⟨⟨fun _ _ _ _ => trivial, h.made⟩, List.forall_mem_cons.mpr ⟨hes, h.frames⟩⟩

theorem Plain.removeThrough (h : s.Plain) (what : List Removal) : (s.removeThrough what).Plain := by
  obtain ⟨hmade, hframes⟩ := h
  induction s with
  | stored => contradiction
  | fresh es around removed =>
    obtain ⟨hes, hfs⟩ := List.forall_mem_cons.mp hframes
    exact ⟨hmade.removeThrough what, List.forall_mem_cons.mpr ⟨forall_mem_applyAll hes what, hfs⟩⟩
  | staged es below ih =>
    obtain ⟨hes, hfs⟩ := List.forall_mem_cons.mp hframes
    exact (ih hmade.2 hfs).staged (forall_mem_applyAll hes what)

end Scope

/-! ### Reading -/

/-- Statements are read as a block, or in place. -/
def Framing.staging : Framing where
  outermost s s' := ∃ es below, s = .staged es below ∧
    s' = below.refill (below.entries ++ es) ∧ s.Plain
  contents := Same AllPlain
  around fs fs' := Lookup.Staged fs fs' ∧ ∀ f ∈ fs, AllPlain f.entries
  nil := AllPlain.same_nil
  filter := @AllPlain.same_filter
  made := by
    rintro _ _ ⟨es, below, rfl, rfl, hs⟩
    exact ⟨hs.made, hs.made.2.refill fun _ _ _ _ => trivial⟩
  frames := by
    rintro _ _ ⟨es, below, rfl, rfl, hs⟩
    obtain ⟨transparent, fs, hframes, hrefill⟩ := hs.made.2.frames_eq
    refine ⟨?_, hs.frames⟩
    rw [hrefill, Scope.frames, hframes]
    exact .block
  cons := by
    rintro fs fs' es _ ⟨h, hfs⟩ ⟨rfl, hes⟩ transparent
    exact ⟨.inside _ h, List.forall_mem_cons.mpr ⟨hes, hfs⟩⟩
  removeThrough := by
    rintro _ _ ⟨es, below, rfl, rfl, hs⟩ what
    refine ⟨_, _, rfl, ?_, hs.removeThrough what⟩
    rw [hs.made.2.removeThrough_refill, hs.made.2.entries_removeThrough, Removal.applyAll_concat]

/-- Scopes correspond when entries were put behind those in them. -/
theorem Framing.staging_append {x : Scope.Kind} {s s' : Scope} {es : List Entry}
    (h : staging.Rel x s s') (hes : AllPlain es) :
    staging.Rel x (s.refill (s.entries ++ es)) (s'.refill (s'.entries ++ es)) := by
  cases h with
  | outermost h =>
    obtain ⟨own, below, rfl, rfl, hs⟩ := h
    have hown := List.forall_mem_append.mpr ⟨hs.entries, hes⟩
    refine .outermost ⟨own ++ es, below, rfl, ?_, hs.refill hown⟩
    rw [hs.made.2.entries_refill, Scope.refill_refill, List.append_assoc]
  | dictionary h ha =>
    obtain ⟨rfl, hown⟩ := h
    exact .dictionary ⟨rfl, List.forall_mem_append.mpr ⟨hown, hes⟩⟩ ha
  | block h hb =>
    obtain ⟨rfl, hown⟩ := h
    exact .block ⟨rfl, List.forall_mem_append.mpr ⟨hown, hes⟩⟩ hb

theorem exec_place_retain {s : ReadState} (hm : s.mode = .retain)
    (hs : s.scope.Carries fun _ => True) (e : Entry) : exec (place e) s =
      (.ok [e], { s with scope := s.scope.refill (s.scope.entries ++ [e]) }) := by
  rw [exec_place_carries hs, hm, place_retain]
  dsimp only
  rw [List.append_nil]

/-- The setup without texts that refer outwards. -/
abbrev Setup.inward (setup : Setup) : Setup := setup.withholding refersOutwards

/-- Only names that lead inwards are looked up, and no pattern stands as a keyword. -/
abbrev Vocabulary.plainly : Vocabulary := { Vocabulary.inward with patterns := False }

/-- Keywords that are patterns are watched for, and changes of the input mode. -/
abbrev Setup.plainly (setup : Setup) : Watch := .either .quoted (.modes setup.registry)

section Watched

variable (setup : Setup) {n : Nat} {t : Token}

theorem Setup.plainly_quoted {s : String} (ht : t.symbol = .quoted s) :
    setup.plainly n t = true := by
  rw [Setup.plainly, Watch.either, Watch.quoted, ht]
  rfl

theorem Setup.plainly_mode {name : String} (ht : t.symbol = .directive name)
    (hd : setup.registry.find? name = some .inputMode) : setup.plainly (n + 1) t = true := by
  rw [Setup.plainly, Watch.either, Watch.modes_directive (r := setup.registry) ht hd, Bool.or_true]

end Watched

/-- Both reads are in the same mode `retain`, and have reported the same. -/
abbrev Framing.retaining (F : Framing) : Scope.Kind → Link ReadState :=
  F.link (.upTo fun _ => True) (Same (· = .retain))

theorem Setup.staging (setup : Setup) :
    Courses (.upTo fun _ => True) Framing.staging.retaining .plainly setup.plainly (Same AllPlain)
      setup.inward setup.inward := by
  refine Framing.courses_known (fun _ => trivial) rfl (fun _ _ _ => trivial) ?_
    (fun _ _ _ => ⟨trivial, rfl⟩) ?_ rfl (fun _ h => h) ?_ ?_ rfl rfl (.inl rfl) (.inl ⟨rfl, rfl⟩)
    ?_ ?_ ?_ ?_ ?_
  · rintro log _ event rfl
    rfl
  · intro n t s ht hw
    exact absurd ((setup.plainly_quoted ht).symm.trans hw) Bool.false_ne_true.symm
  · intro p text h
    have hknows := Vocabulary.knows_of_readText setup h
    exact ⟨hknows.tokens, hknows.fault⟩
  · exact fun name text line ts h => inward_of_environmentTokens setup h
  · -- Only here is it used that names lead inwards: the dictionary itself has less entries.
    rintro fs fs' ⟨hstaged, hfs⟩ name hname
    rw [Lookup.scopedEntry_staged hstaged hfs hname]
    refine .inl ?_
    cases hfind : Lookup.scopedEntry inspection fs name with
    | none => exact .none
    | some e =>
      have he : e.Plain := Lookup.scopedEntry_has (fun hd => (plain_dictionary.mp hd).2) hfs hfind
      exact .some he.finds
  · rintro es _ ⟨rfl, -⟩
    rfl
  · intro x e e' h
    obtain ⟨rfl, he⟩ := plain_of_makes h
    refine ⟨?_, fun _ ha => by contradiction⟩
    rintro ⟨scope, mode, log⟩ ⟨scope', _, _⟩ ⟨hscope, ⟨rfl, rfl⟩, rfl⟩
    rw [exec_place_retain rfl hscope.made.1, exec_place_retain rfl hscope.made.2]
    exact .ok trivial
      ⟨Framing.staging_append hscope (List.forall_mem_singleton.mpr he), ⟨rfl, rfl⟩, rfl⟩
  · rintro x es _ ⟨rfl, hes⟩
    refine ⟨?_, fun _ ha => by contradiction⟩
    rintro ⟨scope, mode, log⟩ ⟨scope', _, _⟩ ⟨hscope, ⟨rfl, rfl⟩, rfl⟩
    rw [exec_placeAll_retain rfl hscope.made.1, exec_placeAll_retain rfl hscope.made.2]
    exact .ok trivial ⟨Framing.staging_append hscope hes, ⟨rfl, rfl⟩, rfl⟩
  · intro n t name ht hd hw
    exact absurd ((setup.plainly_mode ht hd).symm.trans hw) Bool.false_ne_true.symm

/-- Statements that are read as a block are read in place, one level less deep, into the same. -/
theorem Statement.exec_inPlace {setup : Setup} {budget n : Nat} {closing : Option Heading}
    {stops : List String} {i : Input} {s u : ReadState} {p : Taken (Option Token) i}
    (hs : s.scope.Plain) (hm : s.mode = .retain) (hi : ∀ t ∈ i.tokens, t.Inward)
    (h : exec (Watched.readEntries setup.plainly setup.inward budget
      (Watched.runDirective setup.plainly setup.inward budget) n closing stops i)
        { s with scope := .staged [] s.scope } = (.ok p, u)) :
    ∃ es below, u.scope = .staged es below ∧ u.mode = .retain ∧ below.Plain ∧ AllPlain es ∧
      exec (readEntries setup.inward (budget + 1)
        (runDirective setup.inward (budget + 1)) n closing stops i) s =
          (.ok p, { u with scope := below.refill (below.entries ++ es) }) := by
  have hbudget : (Link.upTo fun _ => True : Link (List Event)).Limited .expansionOverflow budget
      (budget + 1) := .inr ⟨Nat.le_succ _, fun _ => trivial, rfl⟩
  have hknows : Vocabulary.plainly.Knows i := ⟨hi, fun _ _ => trivial⟩
  have hcourse := (setup.staging.readEntries (x := .outermost) hbudget (setup.staging.runs hbudget)
    hknows n closing stops).ends { s with scope := .staged [] s.scope } s
    ⟨.outermost ⟨[], s.scope, rfl, by rw [List.append_nil, hs.made.refill_entries],
      hs.staged (List.forall_mem_nil _)⟩, ⟨rfl, hm⟩, rfl⟩
  rw [h] at hcourse
  generalize exec (readEntries setup.inward (budget + 1)
    (runDirective setup.inward (budget + 1)) (n + 0) closing stops i) s = q
    at hcourse ⊢
  obtain ⟨ending, rest⟩ := p
  obtain ⟨_, scope, mode, log⟩ := q
  cases hcourse with
  | @ok _ b _ _ hp hu =>
    obtain ⟨_, _⟩ := b
    obtain ⟨⟨rfl, -⟩, rfl, -⟩ := hp
    obtain ⟨hscope, ⟨rfl, hretain⟩, rfl⟩ := hu
    cases hscope with
    | outermost h =>
      obtain ⟨es, below, hstaged, rfl, hplain⟩ := h
      rw [hstaged] at hplain
      exact ⟨es, below, hstaged, hretain,
        ⟨hplain.made.2, (List.forall_mem_cons.mp hplain.frames).2⟩, hplain.entries, rfl⟩

end CaseDict
