import CaseDict.Proofs.Sharing
import Mathlib
/-! # What is read is literal

Values hold no references and no directives: whatever is read in a value is expanded, what entries
and files and the environment bring is expanded in turn, and what a reference takes from an entry
was expanded when that entry was read. -/

namespace CaseDict

open Expansion Entry

/-- The tokens are no references and no directives. -/
abbrev Token.AllLiteral (ts : List Token) : Prop := ∀ t ∈ ts, t.symbol.isMacro = false

namespace Vocabulary

variable {L : Link (List Event)} {plain : Token → Prop} {fails : Failure → Prop}
  {fails_of : ∀ f, f.isDuplicate = false → fails f}

/-- Values are literal, whatever tokens they are made of. -/
def literal (plain : Token → Prop) (fails : Failure → Prop)
    (fails_of : ∀ f, f.isDuplicate = false → fails f) : Vocabulary where
  plain := plain
  fit t := t.symbol.isMacro = false
  stands := Token.AllLiteral
  fails := fails
  fails_of := fails_of _
  fit_of_plain _ hm := hm
  fit_of_stands h := h
  stands_of_value h _ := h
  stands_number _ := List.forall_mem_singleton.mpr rfl
  stands_switch _ := List.forall_mem_singleton.mpr rfl
  stands_negate _ := List.forall_mem_singleton.mpr rfl

/-- Nothing is asked of what is read. -/
def free : Vocabulary := literal (fun _ => True) (fun _ => True) fun _ _ => trivial

theorem knows_free (i : Input) : free.Knows i := ⟨fun _ _ => trivial, fun _ _ => trivial⟩

theorem whole_literal : (literal plain fails fails_of).Whole := fun _ h => h

/-- Surroundings with literal values, beside themselves. -/
theorem alike_literal {s : Surroundings} (hshared : (literal plain fails fails_of).Shared L)
    (hs : ∀ f ∈ s.frames, AllCarry Token.AllLiteral f.entries)
    (henv : ∀ name text line ts, s.environmentText? name = some text →
      Surroundings.environmentTokens name text line = .ok ts → ∀ t ∈ ts, plain t) :
    s.Alike L (literal plain fails fails_of) s := by
  refine .of_carries hshared hs (fun _ h => h) fun name text line ts htext hts => ?_
  split
  · exact ⟨henv name text line ts htext hts, whole_literal⟩
  · next hm =>
    have hliteral : Token.AllLiteral ts := by simpa using hm
    exact hliteral

end Vocabulary

/-- A read beside itself with other limits. -/
theorem SharedCourses.literal {setup : Setup} {settings : Settings} {watch : Watch}
    {parts : Failure → Prop} (hwatch : (Link.upTo parts : Link (List Event)).Stops watch)
    (hwithin : ∀ f name, parts f → parts (f.within name))
    (hpaths : settings.includePaths = setup.settings.includePaths)
    (henv : setup.settings.environment = settings.environment)
    (hmode : setup.settings.mode = settings.mode)
    (hdepth : (Link.upTo parts : Link (List Event)).Limited .expansionOverflow
      setup.settings.maxExpansion settings.maxExpansion)
    (hnesting : (Link.upTo parts : Link (List Event)).Limited .nestingExceeded
      setup.settings.maxNesting settings.maxNesting) :
    SharedCourses (.upTo parts) .free Eq setup { setup with settings } watch := by
  refine .of_mode hwatch trivial ?_ hnesting hwithin ?_ hmode
  · refine .upTo hpaths hdepth fun _ _ _ _ _ _ => ?_
    exact ⟨Vocabulary.whole_literal, fun _ _ _ => Vocabulary.knows_free _⟩
  · intro frames hf
    rw [henv]
    exact Vocabulary.alike_literal (fun _ _ => trivial) hf fun _ _ _ _ _ _ _ _ => trivial

namespace Reader

variable {setup : Setup} {i : Input} {e : Entry}

/-- A watch changes nothing if the read comes to nothing that is watched for. -/
theorem read_of_avoids {watch : Watch} (h : setup.Avoids watch i) :
    (Watched.read watch setup i).1 = (read setup i).1 := by
  have hcourses : SharedCourses .unstopped .free Eq setup setup watch :=
    .literal (fun _ _ _ => ⟨rfl, rfl⟩) (fun _ name hf => Watch.stopped_within hf name) rfl rfl rfl
      (.inl rfl) (.inl rfl)
  have hends := watched_ends hcourses (.inl rfl) (Vocabulary.knows_free i) rfl rfl
  unfold Setup.Avoids at h
  generalize Watched.read watch setup i = p, read setup i = q at h hends ⊢
  cases hends with
  | ok hsame => rw [hsame.1]
  | error => rfl
  | parted hf => exact absurd (congrArg Except.error hf) h

/-- No token in a dictionary that was read is a reference or a directive, whatever is read, beside
whatever files and in whatever environment, mode and limits. -/
theorem literal_of_read (h : (read setup i).1 = .ok e) :
    ∀ v ∈ e.values, ∀ t ∈ v, t.symbol.isMacro = false := by
  have hcourses : SharedCourses .same .free Eq setup setup :=
    .literal Link.stops_never (fun _ _ h => h) rfl rfl rfl (.inl rfl) (.inl rfl)
  have hends := read_ends hcourses (.inl rfl) (Vocabulary.knows_free i) rfl rfl
  generalize read setup i = p at h hends
  cases hends with
  | ok he => exact Except.ok.inj h ▸ he.2
  | error => contradiction
  | parted => contradiction

/-- An entry with a value of the environment and a computed one, and a reference to it. -/
def referring : Input := .ofTokens "t" [⟨.word "x", 1⟩, ⟨.reference "A", 1⟩, ⟨.directive "neg", 1⟩,
  ⟨.number (.int 3), 1⟩, ⟨.terminator, 1⟩, ⟨.word "y", 2⟩, ⟨.reference "x", 2⟩, ⟨.terminator, 2⟩]

/-- A value of the environment that refers to another one. -/
theorem literal_of_nested :
    ∃ e : Entry, (read (environmentSetup [("A", "1 $B"), ("B", "2")]) referring).1 = .ok e ∧
      e.values.length = 2 ∧ ∀ v ∈ e.values, ∀ t ∈ v, t.symbol.isMacro = false := by
  have hread : (read (environmentSetup [("A", "1 $B"), ("B", "2")]) referring).1 =
      .ok (.dictionary ⟨"t", false, 1, 2⟩ [.primitive ⟨"x", false, 1, 1⟩
          [⟨.number (.int 1), 1⟩, ⟨.number (.int 2), 1⟩, ⟨.number (.int (-3)), 1⟩],
        .primitive ⟨"y", false, 2, 2⟩
          [⟨.number (.int 1), 1⟩, ⟨.number (.int 2), 1⟩, ⟨.number (.int (-3)), 1⟩]]) := by cbv
  exact ⟨_, hread, rfl, literal_of_read hread⟩

end Reader

end CaseDict
