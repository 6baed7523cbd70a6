import CaseDict.Proofs.Literal
/-! # The limits of expansion and nesting

The limits decide only whether a read fails at them. Under higher limits it takes the same course,
up to the first failure at the lower ones. -/

namespace CaseDict

open Expansion

/-- The failure is one at the limit of expansion or of nesting. -/
def Failure.AtLimit (f : Failure) : Prop :=
  f.class? = some .expansionOverflow ∨ f.class? = some .nestingExceeded

theorem Failure.AtLimit.within {f : Failure} (h : f.AtLimit) (name : String) :
    (f.within name).AtLimit := by rwa [AtLimit, class?_within]

/-- The setup with other limits. -/
def Setup.limited (s : Setup) (maxExpansion maxNesting : Int) : Setup :=
  { s with settings := { s.settings with maxExpansion, maxNesting } }

namespace Reader

variable {setup : Setup} {expansion nesting : Int}

/-- Under higher limits a read comes to the same dictionary or the same failure, unless it fails at
a limit. -/
theorem read_limited (he : setup.settings.maxExpansion ≤ expansion)
    (hn : setup.settings.maxNesting ≤ nesting) (i : Input)
    (h : ∀ f, (read setup i).1 = .error f → ¬f.AtLimit) :
    (read (setup.limited expansion nesting) i).1 = (read setup i).1 := by
  have hexpansion : (Link.upTo Failure.AtLimit : Link (List Event)).Loose .expansionOverflow :=
    ⟨.inl, rfl⟩
  have hnesting : (Link.upTo Failure.AtLimit : Link (List Event)).Loose .nestingExceeded :=
    ⟨.inr, rfl⟩
  have hcourses :
      SharedCourses (.upTo Failure.AtLimit) .free Eq setup (setup.limited expansion nesting) :=
    .literal Link.stops_never (fun _ name h => h.within name) rfl rfl rfl
      (.inr ⟨he, hexpansion⟩) (.inr ⟨hn, hnesting⟩)
  have hbudget : setup.settings.budget 0 ≤ (setup.limited expansion nesting).settings.budget 0 :=
    Int.toNat_le_toNat (Int.sub_le_sub_right he 0)
  exact read_of_courses hcourses (.inr ⟨hbudget, hexpansion⟩) (Vocabulary.knows_free i) rfl h

/-- An entry, and a dictionary with a reference to it. -/
def nested : Input := .ofTokens "t" [⟨.word "x", 1⟩, ⟨.number (.int 1), 1⟩, ⟨.terminator, 1⟩,
  ⟨.word "d", 2⟩, ⟨.opener .brace, 2⟩, ⟨.word "y", 3⟩, ⟨.reference "x", 3⟩, ⟨.terminator, 3⟩,
  ⟨.closer .brace, 4⟩]

/-- A read that uses up its limits. -/
theorem read_limited_nested : (1 : Int) ≤ 64 ∧ (1 : Int) ≤ 2 ∧
    (∀ f, (read (bareSetup.limited 1 1) nested).1 = .error f → ¬f.AtLimit) ∧
    ∃ e, (read (bareSetup.limited 1 1) nested).1 = .ok e ∧
      (read ((bareSetup.limited 1 1).limited 64 2) nested).1 = .ok e := by
  have hread : (read (bareSetup.limited 1 1) nested).1 = .ok (.dictionary ⟨"t", false, 1, 4⟩
      [.primitive ⟨"x", false, 1, 1⟩ [⟨.number (.int 1), 1⟩], .dictionary ⟨"d", false, 2, 4⟩
        [.primitive ⟨"y", false, 3, 3⟩ [⟨.number (.int 1), 1⟩]]]) := by cbv
  have hlimit f (hf : (read (bareSetup.limited 1 1) nested).1 = .error f) : ¬f.AtLimit := by
    rw [hread] at hf
    contradiction
  refine ⟨by decide, by decide, hlimit, _, hread, ?_⟩
  exact (read_limited (by decide) (by decide) nested hlimit).trans hread

end Reader

end CaseDict
