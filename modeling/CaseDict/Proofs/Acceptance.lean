import CaseDict.Proofs.Soundness
/-! # What the reader accepts

Reading the tokens of a text into a new dictionary, redefinitions being kept, succeeds exactly on
the documents of the grammar. -/

namespace CaseDict

open Expansion Statement

namespace Grammar

theorem read_eq (setup : Setup) (i : Input) :
    (Reader.read setup i).1 =
      match outcome (Reader.entries setup 0 0 none [] i)
        ⟨.fresh [] [], setup.settings.mode, []⟩ with
      | (.ok (_, j), s) => .ok (.dictionary ⟨i.name, false, 1, j.line⟩ s.scope.entries)
      | (.error f, _) => .error f := by
  simp only [Reader.read, outcome, exec]
  rcases (Reader.entries setup 0 0 none [] i).run.run ⟨.fresh [] [], setup.settings.mode, []⟩ with
    ⟨_ | ⟨_, _⟩, _⟩ <;> rfl

section Read

variable {setup : Setup} (hmode : setup.settings.mode = .retain) (name : String)

include hmode

theorem Document.read {ts : List Token} {es : List Entry}
    (h : Document setup.settings.maxNesting 0 0 ts es) :
    (Reader.read setup (.ofTokens name ts)).1 =
      .ok (.dictionary ⟨name, false, 1, lineAfter 0 ts⟩ es) := by
  rw [read_eq, hmode, Reader.entries, Input.ofTokens, h.outcome_readEntries]
  rfl

theorem Rejects.read {ts : List Token} {why : Pattern.Fault}
    (h : Rejects setup.settings.maxNesting why 0 ts) :
    (Reader.read setup (.ofTokens name ts)).1 = .error (.pattern why) := by
  rw [read_eq, hmode, Reader.entries, Input.ofTokens]
  have he : (outcome (readEntries setup (setup.settings.budget 0)
      (runDirective setup (setup.settings.budget 0)) 0 none [] ⟨name, ts, none, 0⟩) _).1 = _ :=
    h.error none 0 [] [] []
  generalize outcome _ _ = r at he ⊢
  obtain ⟨r, s⟩ := r
  obtain rfl : r = _ := he
  rfl

/-- A read gives what a document stands for, or fails as expected. -/
theorem read_cases {ts : List Token} (hts : ∀ t ∈ ts, t.symbol.isMacro = false) :
    (∃ es, Document setup.settings.maxNesting 0 0 ts es ∧
      (Reader.read setup (.ofTokens name ts)).1 =
        .ok (.dictionary ⟨name, false, 1, lineAfter 0 ts⟩ es)) ∨
    ∃ f, Expected setup.settings.maxNesting 0 ts f ∧
      (Reader.read setup (.ofTokens name ts)).1 = .error f := by
  rw [read_eq, hmode, Reader.entries, Input.ofTokens]
  have h : EntriesRead _ 0 name 0 [] [] [] none ts (outcome (readEntries setup
      (setup.settings.budget 0) (runDirective setup (setup.settings.budget 0)) 0 none []
      ⟨name, ts, none, 0⟩) _) :=
    entries_sound _ ts (Nat.lt_succ_self _) hts 0 none 0 [] [] []
  generalize outcome _ _ = r at h ⊢
  cases h with
  | failed hf => exact .inr ⟨_, hf, rfl⟩
  | document h => exact .inl ⟨_, h, rfl⟩

/-- **The statement reader accepts exactly its grammar.** It succeeds on the tokens of a document,
with the entries they stand for, and else fails with an error of syntax, unless it comes to a quoted
keyword that is no regular expression for a reason that no error of syntax describes. -/
theorem read_ofTokens {ts : List Token} (hts : ∀ t ∈ ts, t.symbol.isMacro = false) :
    (∀ h es, (Reader.read setup (.ofTokens name ts)).1 = .ok (.dictionary h es) ↔
      h = ⟨name, false, 1, lineAfter 0 ts⟩ ∧ Document setup.settings.maxNesting 0 0 ts es) ∧
    (∀ f, (Reader.read setup (.ofTokens name ts)).1 = .error f →
      f.isSyntactic ∨ ∃ why, f = .pattern why) ∧
    ∀ why, (Reader.read setup (.ofTokens name ts)).1 = .error (.pattern why) ↔
      Rejects setup.settings.maxNesting why 0 ts := by
  have hcases := read_cases hmode name hts
  refine ⟨fun h es => ⟨fun hr => ?_, ?_⟩, fun f hr => ?_, fun why => ⟨fun hr => ?_, ?_⟩⟩
  · rcases hcases with ⟨es', hd, h'⟩ | ⟨f, -, h'⟩
    · rw [hr, Except.ok.injEq, Entry.dictionary.injEq] at h'
      exact ⟨h'.1, h'.2 ▸ hd⟩
    · rw [hr] at h'
      contradiction
  · rintro ⟨rfl, hd⟩
    exact hd.read hmode name
  · rcases hcases with ⟨es', -, h'⟩ | ⟨f', hf, h'⟩
    · rw [hr] at h'
      contradiction
    · rw [hr, Except.error.injEq] at h'
      exact h' ▸ hf.imp_right fun ⟨why, h, _⟩ => ⟨why, h⟩
  · rcases hcases with ⟨es', -, h'⟩ | ⟨f', hf, h'⟩
    · rw [hr] at h'
      contradiction
    · rw [hr, Except.error.injEq] at h'
      subst h'
      rcases hf with hf | ⟨why', h, hr⟩
      · contradiction
      · obtain rfl := Failure.pattern.inj h
        exact hr
  · exact fun hr => hr.read hmode name

end Read

theorem read_value : (Reader.read bareSetup (.ofTokens "t"
      [⟨.word "a", 1⟩, ⟨.number (.int 1), 1⟩, ⟨.terminator, 1⟩])).1 =
    .ok (.dictionary ⟨"t", false, 1, 1⟩ [.primitive ⟨"a", false, 1, 1⟩
      [⟨.number (.int 1), 1⟩]]) :=
  ((read_ofTokens (by rfl) "t" (by decide)).1 _ _).mpr
    ⟨rfl, .closed (.cons (.value rfl ⟨by simp, by simp, .atom rfl .nil⟩) .nil)⟩

/-- A count of repetitions beyond the bound is no error of syntax. -/
theorem read_countTooLarge : ∃ f, (Reader.read bareSetup (.ofTokens "t"
      [⟨.quoted "a\x7b4294967295\x7d", 1⟩, ⟨.number (.int 1), 1⟩, ⟨.terminator, 1⟩])).1 =
    .error f ∧ f.isSyntactic = false := by
  have hvs : IsValue [⟨.number (.int 1), 1⟩] := ⟨by simp, by simp, .atom rfl .nil⟩
  exact ⟨.pattern .countTooLarge,
    Rejects.read rfl "t" (.here (by decide +kernel) (by decide) (.value hvs)), rfl⟩

end Grammar

end CaseDict
