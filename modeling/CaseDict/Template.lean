import CaseDict.Text.Alphanumeric
/-! # Texts with references

A template is a text in which `$name` and `${...}` stand for other texts. Between braces a name may
hold all but a closing brace; without braces it is the longest run of word characters. A sigil
without a name stands for itself. -/

namespace CaseDict.Template

/-- A piece of a template. -/
inductive Piece where
  | literal (c : Char)
  | reference (name : String)
  deriving DecidableEq

/-- The reference that begins after a sigil: its name and what follows. -/
def splitReference? : List Char → Option (List Char × List Char)
  | '{' :: cs =>
    match cs.takeWhile (· != '}'), cs.dropWhile (· != '}') with
    | c :: name, '}' :: rest => some (c :: name, rest)
    | _, _ => none
  | cs =>
    match cs.takeWhile Text.isWord with
    | [] => none
    | name => some (name, cs.dropWhile Text.isWord)

theorem splitReference?_length_le {cs name rest : List Char}
    (h : splitReference? cs = some (name, rest)) : rest.length ≤ cs.length := by
  unfold splitReference? at h
  split at h
  · next cs =>
    have hd := (List.dropWhile_suffix (l := cs) (· != '}')).length_le
    split at h
    · next heq =>
      rw [heq] at hd
      simp only [Option.some.injEq, Prod.mk.injEq] at h
      obtain ⟨-, rfl⟩ := h
      simp only [List.length_cons] at hd ⊢
      omega
    · simp at h
  · have hd := (List.dropWhile_suffix (l := cs) Text.isWord).length_le
    split at h
    · simp at h
    · simp only [Option.some.injEq, Prod.mk.injEq] at h
      obtain ⟨-, rfl⟩ := h
      exact hd

/-- The pieces of a text, from left to right. -/
def pieces : List Char → List Piece
  | [] => []
  | c :: cs =>
    if c = '$' then
      match _h : splitReference? cs with
      | some (name, rest) => .reference (String.ofList name) :: pieces rest
      | none => .literal c :: pieces cs
    else .literal c :: pieces cs
termination_by cs => cs.length
decreasing_by
  all_goals simp only [List.length_cons]
  · have := splitReference?_length_le _h; omega
  all_goals omega

/-- The template with each reference replaced; the first one without a replacement decides. -/
def expand {ε : Type} (replace : String → Except ε String) : List Piece → Except ε String
  | [] => .ok ""
  | .literal c :: ps => do return String.singleton c ++ (← expand replace ps)
  | .reference name :: ps => do
    let text ← replace name
    return text ++ (← expand replace ps)

end CaseDict.Template
