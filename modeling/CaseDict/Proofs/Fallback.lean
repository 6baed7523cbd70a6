import CaseDict.Proofs.Literal
/-! # What references and directives fall back on

The environment is asked only for what no entry in scope denotes, and the registry only for the
directives that come up. No text can test whether a name is known there: a read that misses no name
takes the same course under a larger environment, and one that misses no directive under a larger
registry. -/

namespace CaseDict

open Expansion Entry

/-- The same is found in both places, or nothing in the first; only where this `parts` two reads may
there be something in the second. -/
def SameOrMissed {α : Type} (found found' : Option α) (parts : Prop) : Prop :=
  found = found' ∨ found = none ∧ parts

variable {parts : Failure → Prop}

theorem SameOrMissed.of_extends {α : Type} {found found' : Option α} {p : Prop} (hp : p)
    (h : ∀ a, found = some a → found' = some a) : SameOrMissed found found' p := by
  cases found with
  | none => exact .inr ⟨rfl, hp⟩
  | some a => exact .inl (h a rfl).symm

/-- Results meet if they are the same, or else the first is a failure that parts the runs. -/
theorem Link.Meets.of_or {α : Type} {post : α → α → Prop} {r r' : Except Failure α} {f : Failure}
    (h : r = r' ∨ r = .error f ∧ parts f)
    (hself : (Link.upTo parts : Link (List Event)).Meets post r' r') :
    (Link.upTo parts : Link (List Event)).Meets post r r' := by
  rcases h with rfl | ⟨rfl, hf⟩
  · exact hself
  · exact .parted hf rfl

namespace Surroundings

variable {frames : List (Frame Entry)} {environment environment' : List (String × String)}
  {name : String} {p : Prop}

theorem environmentText?_missed (frames : List (Frame Entry))
    (h : SameOrMissed (environment.lookup name) (environment'.lookup name) p) :
    SameOrMissed (environmentText? ⟨frames, environment⟩ name)
      (environmentText? ⟨frames, environment'⟩ name) p := by
  unfold environmentText?
  split
  · exact h
  · exact .inl rfl

/-- Among the same entries a name stands for the same tokens, unless it is missed. -/
theorem tokens_missed (h : SameOrMissed (environment.lookup name) (environment'.lookup name) p)
    (line : Int) : tokens ⟨frames, environment⟩ name line = tokens ⟨frames, environment'⟩ name line ∨
      tokens ⟨frames, environment⟩ name line = .error (.unplaced (.undefinedVariable name) line) ∧
        p := by
  have hfind : find? ⟨frames, environment⟩ name = find? ⟨frames, environment'⟩ name := rfl
  unfold tokens
  rw [hfind]
  split
  · exact .inl rfl
  · exact .inl rfl
  · rcases environmentText?_missed frames h with hsame | ⟨hmiss, hp⟩
    · exact .inl (hsame ▸ rfl)
    · exact .inr ⟨hmiss ▸ rfl, hp⟩

/-- Among the same entries a name stands for the same text, unless it is missed. -/
theorem text_missed (h : SameOrMissed (environment.lookup name) (environment'.lookup name) p)
    (line : Int) : text ⟨frames, environment⟩ line name = text ⟨frames, environment'⟩ line name ∨
      text ⟨frames, environment⟩ line name = .error (.unplaced (.undefinedVariable name) line) ∧
        p := by
  have hfind : find? ⟨frames, environment⟩ name = find? ⟨frames, environment'⟩ name := rfl
  unfold text
  rw [hfind]
  split
  · exact .inl rfl
  · exact .inl rfl
  · rcases environmentText?_missed frames h with hsame | ⟨hmiss, hp⟩
    · exact .inl (hsame ▸ rfl)
    · exact .inr ⟨hmiss ▸ rfl, hp⟩

end Surroundings

namespace Reader

end Reader

end CaseDict
