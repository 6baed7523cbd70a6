import CaseDict.Proofs.Sharing
import CaseDict.Proofs.Tracking
/-! # Reads that no watch stops

What is read under a watch is read without it. -/

namespace CaseDict

open Expansion Statement

variable {σ α β : Type}

/-- A computation beside itself, until it fails. -/
theorem Follows.loosely_refl (m : ExceptT Failure (StateM σ) α) :
    Follows (.loosely Eq) m m Eq where
  ends s s' hs := by
    subst hs
    rcases exec m s with ⟨f | a, u⟩
    · exact .parted trivial (.of_none rfl)
    · exact .ok rfl rfl
  stays _ ha := by contradiction

namespace Watched

/-- The second computation gives what the first one gives. -/
abbrev Repeats (m m' : ReadM α) : Prop := Follows (.loosely Eq) m m' Eq

theorem Repeats.bind {m m' : ReadM α} {k k' : α → ReadM β} (h : Repeats m m')
    (hk : ∀ a, Repeats (k a) (k' a)) : Repeats (m >>= k) (m' >>= k') :=
  Follows.bind h fun a _ hab => hab ▸ hk a

theorem Repeats.before {m : ReadM α} {k k' : α → ReadM β} (hk : ∀ a, Repeats (k a) (k' a)) :
    Repeats (m >>= k) (m >>= k') := (Follows.loosely_refl m).bind fun a _ hab => hab ▸ hk a

theorem Repeats.after {m m' : ReadM α} (h : Repeats m m') (k : α → ReadM β) :
    Repeats (m >>= k) (m' >>= k) := h.bind fun a => .loosely_refl (k a)

theorem Repeats.inDictionary {m m' : ReadM α} (h : Repeats m m') :
    Repeats (inDictionary m) (inDictionary m') where
  ends s s' hs := by
    subst hs
    have h := h.ends { s with scope := s.scope.inner } _ rfl
    rw [exec_inDictionary, exec_inDictionary]
    generalize exec m { s with scope := s.scope.inner } = p,
      exec m' { s with scope := s.scope.inner } = p' at h ⊢
    cases h with
    | @ok a b t t' hab ht =>
      obtain rfl : t = t' := ht
      exact .ok (by rw [hab]) rfl
    | error => exact .error trivial
    | parted => exact .parted trivial (.of_none rfl)
  stays _ ha := by contradiction

theorem Repeats.inBlock {m m' : ReadM α} (h : Repeats m m') :
    Repeats (inBlock m) (inBlock m') where
  ends s s' hs := by
    subst hs
    have h := h.ends { s with scope := .staged [] s.scope } _ rfl
    rw [Follows.exec_inBlock_eq, Follows.exec_inBlock_eq]
    generalize exec m { s with scope := .staged [] s.scope } = p,
      exec m' { s with scope := .staged [] s.scope } = p' at h ⊢
    cases h with
    | @ok a b t t' hab ht =>
      obtain rfl : t = t' := ht
      exact .ok (by rw [hab]) rfl
    | error => exact .error trivial
    | parted => exact .parted trivial (.of_none rfl)
  stays _ ha := by contradiction

theorem Repeats.ok {m m' : ReadM α} (h : Repeats m m') {s u : ReadState} {a : α}
    (hm : exec m s = (.ok a, u)) : exec m' s = (.ok a, u) := by
  have h := h.ends s s rfl
  rw [hm] at h
  generalize exec m' s = p at h ⊢
  cases h with
  | @ok _ b _ u' hab hu => rw [hab, show u = u' from hu]

variable {watch : Watch} {setup : Setup} {budget : Nat} {run run' : DirectiveRunner}

theorem readEntry_repeats {i : Input} (hentries : ∀ i' : Input, i'.size < i.size → ∀ n closing stops,
      Repeats (readEntries watch setup budget run n closing stops i')
        (Statement.readEntries setup budget run' n closing stops i')) (n : Nat) (h : Heading) :
    Repeats (readEntry watch setup budget run n h i)
      (Statement.readEntry setup budget run' n h i) := by
  rw [readEntry.eq_def, Statement.readEntry.eq_def]
  refine .before fun found => ?_
  rcases found with _ | ⟨⟨y, line⟩, rest⟩
  · exact .loosely_refl _
  cases y with
  | opener b =>
    cases b with
    | brace =>
      dsimp only
      split
      · exact .loosely_refl _
      · exact .before fun k => (hentries _ rest.lt _ _ _).inDictionary.after _
    | round | square => exact .loosely_refl _
  | reference name => exact .before fun _ => .loosely_refl _
  | _ => exact .loosely_refl _

theorem readStatement_repeats (hrun : ∀ n t i, Repeats (run n t i) (run' n t i)) {i : Input}
    (hentries : ∀ i' : Input, i'.size < i.size → ∀ n closing stops,
      Repeats (readEntries watch setup budget run n closing stops i')
        (Statement.readEntries setup budget run' n closing stops i')) (n : Nat) (t : Token) :
    Repeats (readStatement watch setup budget run n t i)
      (Statement.readStatement setup budget run' n t i) := by
  rw [readStatement.eq_def, Statement.readStatement.eq_def]
  split
  · exact (Stuck.throw _).follows
  refine .adapt ?_ (fun _ _ => trivial) fun _ _ => trivial
  obtain ⟨y, line⟩ := t
  cases y with
  | directive => exact (hrun _ _ _).after _
  | word | quoted => exact (readEntry_repeats hentries _ _).after _
  | _ => exact .loosely_refl _

theorem readEntries_repeats (hrun : ∀ n t i, Repeats (run n t i) (run' n t i)) (i : Input) :
    ∀ n closing stops, Repeats (readEntries watch setup budget run n closing stops i)
      (Statement.readEntries setup budget run' n closing stops i) := by
  induction hsize : i.size using Nat.strongRecOn generalizing i with
  | ind size ih =>
    subst hsize
    intro n closing stops
    rw [readEntries.eq_def, Statement.readEntries.eq_def]
    refine .before fun found => ?_
    rcases found with _ | ⟨t, rest⟩
    · exact .loosely_refl _
    dsimp only
    split
    · exact .loosely_refl _
    split
    · exact (ih _ rest.lt _ rfl n closing stops).after _
    split
    · exact .loosely_refl _
    refine (readStatement_repeats hrun (fun i' hlt => ih _ (hlt.trans rest.lt) i' rfl) n t).bind
      fun p => ?_
    exact (ih _ (rest.onward p.2).lt _ rfl n closing stops).after _

/-- What directives bring under a watch they bring without it. -/
theorem runDirective_repeats (budget n : Nat) (t : Token) (i : Input) :
    Repeats (runDirective watch setup budget n t i)
      (Statement.runDirective setup budget n t i) := by
  induction budget generalizing n t i with
  | zero => exact .loosely_refl _
  | succ budget ih =>
    have hentries (stops : List String) (i : Input) :
        Repeats (readEntries watch setup budget (runDirective watch setup budget) n none stops i)
          (Statement.readEntries setup budget (Statement.runDirective setup budget) n none stops
            i) := readEntries_repeats ih i n none stops
    have hconditional (own : Directive) (taken : Bool) (i : Input) :
        Repeats (conditional (readEntries watch setup budget (runDirective watch setup budget) n none)
            own t taken i)
          (conditional (Statement.readEntries setup budget (Statement.runDirective setup budget) n
            none) own t taken i) := by
      unfold conditional
      split
      · exact (hentries _ _).inBlock.after _
      · refine .before fun p => ?_
        dsimp only
        split
        · exact (hentries _ _).inBlock.after _
        · exact .loosely_refl _
    unfold runDirective Statement.runDirective
    extract_lets entries argument entries'
    refine .before fun d => ?_
    cases d with
    | includeFile optional =>
      refine .before fun p => ?_
      obtain ⟨_ | path, rest⟩ := p
      · exact .loosely_refl _
      · exact .before fun file => (hentries [] file).inBlock.after _
    | ifEqual =>
      exact .before fun p => .before fun q => (hconditional _ _ _).after _
    | ifTrue =>
      refine .before fun p => ?_
      dsimp only
      cases Switch.ofTokens p.1 with
      | none => exact .loosely_refl _
      | some taken => exact (hconditional _ _ _).after _
    | _ => exact .loosely_refl _

end Watched

end CaseDict
