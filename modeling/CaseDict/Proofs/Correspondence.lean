import CaseDict.Proofs.Courses
import CaseDict.Proofs.Viewing
/-! # Looking names up in dictionaries that correspond

If in every dictionary a name denotes corresponding entries, or no entry in both, then every scoped
name does so in chains of such dictionaries, and references in them stand for the same. -/

namespace CaseDict

open Entry

namespace Lookup

/-- Every name denotes corresponding entries. -/
def Corresponds (P : Entry → Entry → Prop) (es es' : List Entry) : Prop :=
  ∀ name, Option.Rel P (find inspection name es) (find inspection name es')

/-- The frames are both transparent or both not, and correspond. -/
structure FrameCorresponds (P : Entry → Entry → Prop) (f f' : Frame Entry) : Prop where
  transparent : f.transparent = f'.transparent
  entries : Corresponds P f.entries f'.entries

variable {P : Entry → Entry → Prop} {fs fs' : List (Frame Entry)}

theorem FrameCorresponds.agree {f f' : Frame Entry} (h : FrameCorresponds P f f') :
    FramesAgree inspection inspection P f f' := ⟨h.transparent, h.entries⟩

/-- Dictionaries hold corresponding entries if their contents correspond. -/
theorem inner?_corresponds {heading : Heading → Heading → Prop} {value : List Token → Prop}
    {contents : List Entry → List Entry → Prop}
    (h : ∀ es es', contents es es' → Corresponds (Alike heading value contents) es es') :
    ∀ e e', Alike heading value contents e e' →
      Option.Rel (Corresponds (Alike heading value contents)) e.inner? e'.inner? := by
  rintro _ _ (_ | ⟨_, hes⟩)
  · exact .none
  · exact .some (h _ _ hes)

/-- Entries correspond to themselves if each of them does. -/
theorem corresponds_self {es : List Entry} (h : ∀ e ∈ es, P e e) : Corresponds P es es := by
  intro name
  cases hf : find inspection name es with
  | none => exact .none
  | some e => exact .some (h e (mem_of_find hf))

variable (hP : ∀ e e', P e e' → Option.Rel (Corresponds P) e.inner? e'.inner?)

include hP

/-- A scoped name denotes corresponding entries. -/
theorem scopedEntry_corresponds (h : List.Forall₂ (FrameCorresponds P) fs fs') (name : String) :
    Option.Rel P (scopedEntry inspection fs name) (scopedEntry inspection fs' name) :=
  scopedEntry_agree hP (h.imp fun _ _ => FrameCorresponds.agree) name

end Lookup

/-- References stand for the same if the names denote entries with the same values. -/
theorem Surroundings.Alike.of_finds {L : Link (List Event)} {V : Vocabulary} {setup : Setup}
    {contents : List Entry → List Entry → Prop} {s s' : Surroundings} (hshared : V.Shared L)
    (hfinds : ∀ name, V.names name →
      Option.Rel (V.Finds contents) (s.find? name) (s'.find? name) ∨
        L.Loses setup name ∧ s.find? name = none)
    (hexpanded : ∀ ts, V.stands ts → ∀ t ∈ ts, t.symbol.isMacro = false)
    (henv : s.environment = s'.environment)
    (htokens : ∀ name text line ts, s.environmentText? name = some text →
      environmentTokens name text line = .ok ts →
        if ts.any (·.symbol.isMacro) then (∀ t ∈ ts, V.plain t) ∧ V.Whole else V.stands ts) :
    s.Alike L V s' where
  text line name hn := by
    have hsame : s'.environmentText? name = s.environmentText? name := by
      rw [environmentText?, environmentText?, henv]
    unfold Surroundings.text
    rw [hsame]
    rcases hfinds name hn with hfind | ⟨hlost, hnone⟩
    · generalize s.find? name = found, s'.find? name = found' at hfind
      cases hfind with
      | none =>
        dsimp only
        cases s.environmentText? name with
        | none => exact .error (hshared _ (V.fails_of rfl))
        | some text => exact .ok ⟨rfl, trivial⟩
      | some he =>
        cases he with
        | primitive => exact .ok ⟨rfl, trivial⟩
        | dictionary => exact .error (hshared _ (V.fails_of rfl))
    · rw [hnone, environmentText?, hlost.identifier]
      exact .parted (hlost.undefined line) hlost.after
  tokens name hn line := by
    have hsame : s'.environmentText? name = s.environmentText? name := by
      rw [environmentText?, environmentText?, henv]
    rcases hfinds name hn with hfind | ⟨hlost, hnone⟩
    · unfold Surroundings.tokens
      rw [hsame]
      generalize s.find? name = found, s'.find? name = found' at hfind
      cases hfind with
      | none =>
        dsimp only
        cases htext : s.environmentText? name with
        | none => exact .error (hshared _ (V.fails_of rfl))
        | some text =>
          exact .refl (fun ts hts => ⟨rfl, htokens name text line ts htext hts⟩) fun f hf =>
            hshared f (V.fails_of (isDuplicate_of_environmentTokens hf))
      | some he =>
        cases he with
        | @primitive _ _ ts _ hts =>
          have hm : ¬ts.any (·.symbol.isMacro) = true := by simpa using hexpanded ts hts
          exact .ok ⟨rfl, (if_neg hm).mpr hts⟩
        | dictionary => exact .error (hshared _ (V.fails_of rfl))
    · rw [tokens_of_none hnone hlost.identifier]
      exact .parted (hlost.undefined line) hlost.after

end CaseDict
