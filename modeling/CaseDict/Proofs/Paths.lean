import CaseDict.Files
import Mathlib
/-! # Paths and their texts

What is read as a path is in normal form, and a path in normal form is read back from its text. -/

namespace CaseDict.Path

/-- A component that is neither empty nor the current directory. -/
def IsComponent (s : String) : Prop := s ≠ "" ∧ s ≠ "." ∧ '/' ∉ s.toList

/-- At most two slashes stand before the components. -/
structure IsNormal (p : Path) : Prop where
  root : p.root = "" ∨ p.root = "/" ∨ p.root = "//"
  parts : ∀ s ∈ p.parts, IsComponent s

/-- The components of a path, as `ofString` reads them. -/
def components (cs : List Char) : List String :=
  (cs.splitOn '/').filterMap fun part =>
    if part.isEmpty || part == ['.'] then none else some (String.ofList part)

theorem notMem_of_mem_splitOn {cs part : List Char} (h : part ∈ cs.splitOn '/') : '/' ∉ part := by
  induction cs generalizing part with
  | nil =>
    obtain rfl : part = [] := by simpa using h
    exact List.not_mem_nil
  | cons c cs ih =>
    rw [List.splitOn_cons_eq_if_modifyHead] at h
    split at h
    · rcases List.mem_cons.mp h with rfl | h
      · exact List.not_mem_nil
      · exact ih h
    · next hc =>
      obtain ⟨w, ws, hw⟩ := List.exists_cons_of_ne_nil (List.splitOn_ne_nil '/' cs)
      rw [hw] at h ih
      rcases List.mem_cons.mp h with rfl | h
      · rw [List.mem_cons, not_or]
        exact ⟨fun he => hc (beq_iff_eq.mpr he.symm), ih (List.mem_cons_self ..)⟩
      · exact ih (List.mem_cons_of_mem _ h)

theorem isComponent_of_mem {cs : List Char} {s : String} (h : s ∈ components cs) :
    IsComponent s := by
  obtain ⟨part, hpart, hs⟩ := List.mem_filterMap.mp h
  split at hs
  · contradiction
  · next hne =>
    obtain rfl := Option.some.inj hs
    rw [Bool.or_eq_true, not_or, List.isEmpty_iff, beq_iff_eq] at hne
    refine ⟨fun he => hne.1 ?_, fun he => hne.2 ?_, ?_⟩
    · simpa using he
    · simpa using congrArg String.toList he
    · rw [String.toList_ofList]
      exact notMem_of_mem_splitOn hpart

theorem isNormal_ofString (s : String) : (ofString s).IsNormal where
  root := by
    unfold ofString
    dsimp only
    split
    · exact .inl rfl
    · split
      · exact .inr (.inr rfl)
      · exact .inr (.inl rfl)
  parts _ := isComponent_of_mem

theorem components_slash (cs : List Char) : components ('/' :: cs) = components cs := by
  rw [components, List.splitOn_cons_eq_if_modifyHead, if_pos (by decide)]
  rfl

/-- Names without a slash are the parts of the text in which slashes stand between them. -/
theorem splitOn_intercalate {parts : List String} (hparts : parts ≠ [])
    (h : ∀ s ∈ parts, '/' ∉ s.toList) :
    ("/".intercalate parts).toList.splitOn '/' = parts.map String.toList := by
  have hslash : ∀ l ∈ parts.map String.toList, '/' ∉ l := List.forall_mem_map.mpr h
  rw [String.toList_intercalate]
  exact List.splitOn_intercalate '/' hslash (by simpa using hparts)

/-- Components are read back from their text. -/
theorem components_intercalate {parts : List String} (h : ∀ s ∈ parts, IsComponent s) :
    components ("/".intercalate parts).toList = parts := by
  by_cases hp : parts = []
  · subst hp
    rfl
  have hkeep (s : String) (hs : s ∈ parts) : (if s.toList.isEmpty || s.toList == ['.'] then none
      else some (String.ofList s.toList)) = some s := by
    obtain ⟨hne, hdot, -⟩ := h s hs
    have hdot' : s.toList ≠ ['.'] := fun he => hdot (by rw [← String.ofList_toList (s := s), he])
    rw [if_neg (by simp [hne, hdot']), String.ofList_toList]
  rw [components, splitOn_intercalate hp fun s hs => (h s hs).2.2, List.filterMap_map]
  exact (List.filterMap_congr hkeep).trans List.filterMap_some

theorem takeWhile_intercalate {parts : List String} (h : ∀ s ∈ parts, IsComponent s) :
    ("/".intercalate parts).toList.takeWhile (· == '/') = [] := by
  cases parts with
  | nil => rfl
  | cons s more =>
    obtain ⟨hne, -, hslash⟩ := h s (List.mem_cons_self ..)
    rw [String.toList_intercalate, List.map_cons]
    cases hs : s.toList with
    | nil => simp_all
    | cons c cs =>
      have hc : (c == '/') = false := by
        rw [hs, List.mem_cons, not_or] at hslash
        exact beq_eq_false_iff_ne.mpr (Ne.symm hslash.1)
      cases more <;> simp [List.intercalate, hc]

theorem ofString_eq (s : String) : ofString s =
    ⟨if (s.toList.takeWhile (· == '/')).length = 0 then ""
      else if (s.toList.takeWhile (· == '/')).length = 2 then "//" else "/",
      components s.toList⟩ := rfl

/-- A path in normal form is read back from its text. -/
theorem ofString_text {p : Path} (h : p.IsNormal) : ofString p.text = p := by
  obtain ⟨root, parts⟩ := p
  obtain ⟨hroot, hparts⟩ := h
  dsimp only at hroot hparts
  by_cases hempty : root = "" ∧ parts = []
  · obtain ⟨rfl, rfl⟩ := hempty
    cbv
  have htext : text ⟨root, parts⟩ = root ++ "/".intercalate parts := by
    rw [text, if_neg]
    simpa using hempty
  have hcomponents := components_intercalate hparts
  have hslashes := takeWhile_intercalate hparts
  rw [htext, ofString_eq, String.toList_append]
  generalize ("/".intercalate parts).toList = cs at hcomponents hslashes
  rcases hroot with rfl | rfl | rfl
  · simp [hcomponents, hslashes]
  · simp [hcomponents, hslashes, components_slash]
  · simp [hcomponents, hslashes, components_slash]

end CaseDict.Path
