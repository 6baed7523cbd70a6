import CaseDict.Proofs.Legible
import CaseDict.Proofs.Sharing
/-! # What reading stores

While plain input is read without an environment, all values that are stored are legible: their
tokens come from the input or are computed, and what a reference takes from an entry is legible
already. Files would bring tokens from elsewhere, so the input must be free of directives that read
them. Patterns that are stored are regular expressions in any case. -/

namespace CaseDict

open Expansion Statement Entry

/-! ### Plain input -/

/-- The token is legible and reads no file. -/
def Token.IsPlain (r : Registry) (t : Token) : Prop := t.symbol.Legible ∧ ¬t.symbol.Includes r

/-- All tokens of the input are plain. -/
def Input.IsPlain (r : Registry) (i : Input) : Prop := ∀ t ∈ i.tokens, t.IsPlain r

/-- Plain input makes legible values. -/
def Vocabulary.legible (r : Registry) : Vocabulary where
  plain := Token.IsPlain r
  fit t := t.symbol.Legible
  stands := Token.AllLegible
  fails _ := True
  fails_of _ := trivial
  fit_of_plain h _ := h.1
  fit_of_stands h := h.symbols
  stands_of_value h hn := ⟨h, hn fun _ h => h.nested⟩
  stands_number h := .singleton h rfl
  stands_switch h := .singleton (Lexer.isWord_switch h) rfl
  stands_negate h := .singleton (Number.writable_negate h) rfl

namespace Reader

variable {setup : Setup} {i : Input} {h : Heading} {es : List Entry}

theorem exec_entries_of_read (hr : (read setup i).1 = .ok (.dictionary h es)) :
    ∃ p s, exec (entries setup 0 0 none [] i) (start setup) = (.ok p, s) ∧
      s.scope.entries = es := by
  rw [read_eq] at hr
  rcases hx : exec (entries setup 0 0 none [] i) (start setup) with ⟨_ | p, s⟩
  · rw [hx] at hr
    contradiction
  · rw [hx] at hr
    cases hr
    exact ⟨p, s, rfl, rfl⟩

theorem allChecked_of_read (hr : (read setup i).1 = .ok (.dictionary h es)) : AllChecked es := by
  obtain ⟨p, s, hx, rfl⟩ := exec_entries_of_read hr
  have hf : Filling (entries setup 0 0 none [] i) :=
    fillingBelow (.runDirective _) _ i (Nat.lt_succ_self _) _ _ _
  have hfills := hf (start setup) trivial
  rw [hx] at hfills
  obtain ⟨scope, mode, log⟩ := s
  cases hfills with
  | fresh hc => exact hc (by simp [AllChecked])

/-- All entries that are read from plain input without an environment are legible. -/
theorem allLegible_of_read (henv : setup.settings.environment = []) (hi : i.IsPlain setup.registry)
    (hr : (read setup i).1 = .ok (.dictionary h es)) : AllLegible es := by
  have hcourses : SharedCourses .same (.legible setup.registry) Eq setup setup := by
    refine .of_mode Link.stops_never trivial ?_ (.inl rfl) (fun _ _ h => h) ?_ rfl
    · exact .upTo rfl (.inl rfl) fun t name optional ht hs hd =>
        absurd ⟨name, optional, hs, hd⟩ ht.2
    · intro frames hf
      refine .of_carries (fun _ _ => trivial) hf (fun ts hts => hts.nested.isMacro) ?_
      intro name text line ts htext
      simp [Surroundings.environmentText?, henv] at htext
  have hends := read_ends hcourses (.inl rfl) ⟨hi, fun _ _ => trivial⟩ rfl rfl
  generalize read setup i = p at hr hends
  cases hends with
  | ok he =>
    cases hr
    exact carries_dictionary.mp he.2
  | error => contradiction
  | parted => contradiction

end Reader

end CaseDict
