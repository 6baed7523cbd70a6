import CaseDict.Lookup
import Mathlib.Data.List.Forall2
/-! # Looking names up in two ways

Entries may be inspected in two ways, as trees and as stored entries for instance. If in every
dictionary a name denotes related entries, or none in both ways, then every scoped name does so in
chains of such dictionaries. -/

namespace CaseDict

namespace Lookup

variable {ε ε' : Type}

/-- Every name denotes related entries. -/
def Agree (view : Inspection ε) (view' : Inspection ε') (P : ε → ε' → Prop) (es : List ε)
    (es' : List ε') : Prop := ∀ name, Option.Rel P (find view name es) (find view' name es')

/-- The frames are both transparent or both not, and names denote related entries in them. -/
structure FramesAgree (view : Inspection ε) (view' : Inspection ε') (P : ε → ε' → Prop)
    (f : Frame ε) (f' : Frame ε') : Prop where
  transparent : f.transparent = f'.transparent
  entries : Agree view view' P f.entries f'.entries

variable {view : Inspection ε} {view' : Inspection ε'} {P : ε → ε' → Prop} {fs : List (Frame ε)}
  {fs' : List (Frame ε')}

section Lists

variable {α β : Type} {R : α → β → Prop} {l : List α} {l' : List β} {p : α → Bool} {p' : β → Bool}

theorem forall₂_dropWhile (h : List.Forall₂ R l l') (hp : ∀ a b, R a b → p a = p' b) :
    List.Forall₂ R (l.dropWhile p) (l'.dropWhile p') := by
  induction h with
  | nil => exact .nil
  | @cons a b l l' hab hl ih =>
    rw [List.dropWhile_cons, List.dropWhile_cons, hp a b hab]
    split
    · exact ih
    · exact .cons hab hl

theorem rel_find? (h : List.Forall₂ R l l') (hp : ∀ a b, R a b → p a = p' b) :
    Option.Rel R (l.find? p) (l'.find? p') := by
  induction h with
  | nil => exact .none
  | @cons a b l l' hab _ ih =>
    rw [List.find?_cons, List.find?_cons, hp a b hab]
    cases p' b with
    | true => exact .some hab
    | false => exact ih

theorem rel_bind {found : Option α} {found' : Option β} {k : α → Option ε} {k' : β → Option ε'}
    (h : Option.Rel R found found') (hk : ∀ a b, R a b → Option.Rel P (k a) (k' b)) :
    Option.Rel P (found.bind k) (found'.bind k') := by
  cases h with
  | none => exact .none
  | some h => exact hk _ _ h

end Lists

/-- Names denote related entries if the entries are related one by one. -/
theorem agree_of_forall₂ (hhead : ∀ e e', P e e' → view.head e = view'.head e') {es : List ε}
    {es' : List ε'} (h : List.Forall₂ P es es') : Agree view view' P es es' := by
  intro name
  have hrev := List.forall₂_reverse_iff.mpr h
  have hnamed : Option.Rel P (es.reverse.find? fun e => (view.head e).isNamed name)
      (es'.reverse.find? fun e => (view'.head e).isNamed name) :=
    rel_find? hrev fun e e' he => by rw [hhead e e' he]
  unfold find findNamed findMatched
  generalize es.reverse.find? _ = found, es'.reverse.find? _ = found' at hnamed
  cases hnamed with
  | some he => exact .some he
  | none => exact rel_find? hrev fun e e' he => by rw [hhead e e' he]

theorem outward_agree (h : List.Forall₂ (FramesAgree view view' P) fs fs') :
    List.Forall₂ (FramesAgree view view' P) (outward fs) (outward fs') := by
  have hp (f : Frame ε) (f' : Frame ε') (hf : FramesAgree view view' P f f') := hf.transparent
  exact forall₂_dropWhile (List.forall₂_drop 1 (forall₂_dropWhile h hp)) hp

theorem getLast?_agree (h : List.Forall₂ (FramesAgree view view' P) fs fs') :
    List.Forall₂ (FramesAgree view view' P) fs.getLast?.toList fs'.getLast?.toList := by
  have h := List.forall₂_reverse_iff.mpr h
  rw [← List.head?_reverse, ← List.head?_reverse]
  generalize fs.reverse = l, fs'.reverse = l' at h
  cases h with
  | nil => exact .nil
  | cons hf => exact .cons hf .nil

theorem findOutward_agree (h : List.Forall₂ (FramesAgree view view' P) fs fs') (name : String) :
    Option.Rel P (findOutward view name fs) (findOutward view' name fs') := by
  unfold findOutward
  induction h with
  | nil => exact .none
  | @cons f f' fs fs' hf _ ih =>
    have hfind := hf.entries name
    rw [List.findSome?_cons, List.findSome?_cons]
    generalize find view name f.entries = found, find view' name f'.entries = found' at hfind
    cases hfind with
    | none => exact ih
    | some he => exact .some he

variable (hP : ∀ e e', P e e' → Option.Rel (Agree view view' P) (view.inner? e) (view'.inner? e'))

include hP

theorem descend_agree {e : ε} {e' : ε'} (he : P e e') (path : List String) :
    Option.Rel P (descend view e path) (descend view' e' path) := by
  induction path generalizing e e' with
  | nil => exact .some he
  | cons name path ih =>
    have hinner := hP e e' he
    simp only [descend, Option.bind_eq_bind]
    generalize view.inner? e = inner, view'.inner? e' = inner' at hinner
    cases hinner with
    | none => exact .none
    | some hes => exact rel_bind (R := P) (hes name) fun _ _ => ih

theorem follow_agree (h : List.Forall₂ (FramesAgree view view' P) fs fs') (everywhere : Bool)
    (path : List String) :
    Option.Rel P (follow view fs everywhere path) (follow view' fs' everywhere path) := by
  induction path generalizing fs fs' everywhere with
  | nil => exact .none
  | cons name path ih =>
    unfold follow
    split
    · exact ih (outward_agree h) false
    · cases h with
      | nil => exact .none
      | @cons f f' fs fs' hf hfs =>
        simp only [Option.bind_eq_bind]
        split
        · exact rel_bind (findOutward_agree (.cons hf hfs) name)
            fun _ _ he => descend_agree hP he path
        · exact rel_bind (hf.entries name) fun _ _ he => descend_agree hP he path

/-- A scoped name denotes related entries. -/
theorem scopedEntry_agree (h : List.Forall₂ (FramesAgree view view' P) fs fs') (name : String) :
    Option.Rel P (scopedEntry view fs name) (scopedEntry view' fs' name) := by
  unfold scopedEntry
  split
  · exact follow_agree hP (getLast?_agree h) false _
  · exact follow_agree hP h true _

end Lookup

end CaseDict
