import CaseDict.Proofs.DeepMerge
import CaseDict.Proofs.Inward
import CaseDict.Proofs.Unfolding
/-! # Paths in entries and in their values

The value of a dictionary is made forwards, and a later entry takes the place of an earlier one of
its keyword. A name is looked up backwards, and the first entry found is the newest. Without patterns
both come to the same: what a path denotes in the outermost dictionary has the value to which the
path leads in the value of the dictionary (`Workspace.scopedEntry_value`). -/

namespace CaseDict

namespace Value

/-- The value to which a path leads through maps. -/
def at? : Value → List String → Option Value
  | v, [] => some v
  | .map fs, key :: path => (fs.lookup key).bind (at? · path)
  | _, _ :: _ => none

theorem at?_map (fs : List (String × Value)) (key : String) (path : List String) :
    (Value.map fs).at? (key :: path) = (fs.lookup key).bind (at? · path) := rfl

/-- Paths lead through maps only. -/
theorem at?_of_not {v : Value} (h : v.isMap = false) (key : String) (path : List String) :
    v.at? (key :: path) = none := by
  cases v with
  | map fs => contradiction
  | _ => rfl

theorem keys_setField (k : String) (v : Value) (fs : List (String × Value)) :
    (setField k v fs).map Prod.fst =
      if k ∈ fs.map Prod.fst then fs.map Prod.fst else fs.map Prod.fst ++ [k] := by
  induction fs with
  | nil => rfl
  | cons f fs ih =>
    obtain ⟨k', w⟩ := f
    rw [setField]
    by_cases hk : k' = k
    · simp [hk]
    · have hcons : k ∈ ((k', w) :: fs).map Prod.fst ↔ k ∈ fs.map Prod.fst := by
        rw [List.map_cons, List.mem_cons, or_iff_right (Ne.symm hk)]
      rw [if_neg hk, List.map_cons, ih, List.map_cons, ← List.map_cons]
      simp only [hcons]
      split <;> rfl

end Value

namespace Entry

variable {e : Entry} {es : List Entry} {name key : String} {path : List String}

/-! ### Keywords -/

/-- A keyword counts where it comes first. -/
theorem keys_concat (es : List Entry) (e : Entry) :
    keys (es ++ [e]) = if e.keyword ∈ keys es then keys es else keys es ++ [e.keyword] := by
  simp only [keys, List.map_append, List.map_singleton, List.eraseDups_append, List.mem_eraseDups]
  generalize es.map keyword = ks
  by_cases h : e.keyword ∈ ks <;> simp [List.removeAll, List.eraseDups_cons, h]

/-- The keywords of a dictionary are the keys of its value, in the same order. -/
theorem keys_fields (es : List Entry) : (fields [] es).map Prod.fst = keys es := by
  induction es using List.reverseRecOn with
  | nil => rfl
  | append_singleton es e ih => rw [fields_concat, Value.keys_setField, ih, keys_concat]

/-! ### Paths -/

/-- Without patterns a name denotes the newest entry of that keyword. -/
theorem find_eq_newest? (hes : AllUnpatterned es) (name : String) :
    Lookup.find inspection name es = newest? name es := by
  have hnamed : Lookup.findNamed inspection name es = newest? name es := find?_isNamed hes
  have hmatched : Lookup.findMatched inspection name es = none := by
    refine List.find?_eq_none.mpr fun x hx => ?_
    have hplain : x.head.isPattern = false := (hes x (List.mem_reverse.mp hx)).head
    simp [Heading.isMatched, inspection, hplain]
  rw [Lookup.find, hnamed, hmatched]
  cases newest? name es <;> rfl

/-- Going from an entry along a path leads to what the path leads to in its value. -/
theorem descend_value (he : e.Unpatterned) (path : List String) :
    (Lookup.descend inspection e path).map value = e.value.at? path := by
  induction path generalizing e with
  | nil => rfl
  | cons name path ih =>
    cases e with
    | primitive h ts =>
      have hmap : (primitive h ts).value.isMap = false := isMap_value _
      rw [Value.at?_of_not hmap]
      rfl
    | dictionary h es =>
      have hes : AllUnpatterned es := (unpatterned_dictionary.mp he).2
      have hdescend : Lookup.descend inspection (dictionary h es) (name :: path) =
          (newest? name es).bind (Lookup.descend inspection · path) := by
        rw [← find_eq_newest? hes]
        rfl
      rw [hdescend, value, Value.at?_map, lookup_fields]
      rcases hnewest : newest? name es with _ | x
      · rfl
      · have hx : x ∈ es := List.mem_reverse.mp (List.mem_of_find?_eq_some hnewest)
        exact ih (hes x hx)

/-- What a path denotes in the outermost dictionary has the value to which the path leads. -/
theorem value_scopedEntry (h : Heading) (t : Bool) (hes : AllUnpatterned es)
    (hpath : ∀ name ∈ key :: path, Lookup.IsComponent name) (hmark : key.toList.head? ≠ some '!')
    (hout : key ≠ "..") :
    (Lookup.scopedEntry inspection [⟨es, t⟩] ("/".intercalate (key :: path))).map value =
      (dictionary h es).value.at? (key :: path) := by
  have houtward : Lookup.findOutward inspection key [⟨es, t⟩] = newest? key es := by
    rw [← find_eq_newest? hes, Lookup.findOutward, List.findSome?_cons]
    cases Lookup.find inspection key es <;> rfl
  rw [Lookup.scopedEntry_path inspection _ hpath hmark hout, houtward, value, Value.at?_map,
    lookup_fields]
  rcases hnewest : newest? key es with _ | x
  · rfl
  · have hx : x ∈ es := List.mem_reverse.mp (List.mem_of_find?_eq_some hnewest)
    exact descend_value (hes x hx) path

end Entry

namespace Workspace

open Entry

variable {ws : Workspace} {root r : Ref} {h : Heading} {es : List Entry} {key : String}
  {path : List String}

/-- A dictionary with nothing around it is the only frame in which names are looked up from it. -/
theorem frames_of_root (hroot : ws.parent root = none) :
    ws.frames root = [⟨ws.members root, ws.isTransparent root⟩] := by
  have hchain : ws.chain root = [root] := by
    unfold chain
    cases ws.nodes.size with
    | zero => rfl
    | succ n => rw [chainWithin, hroot]
  rw [frames, hchain, List.map_singleton]

/-- A scoped name denotes in a dictionary with nothing around it what it denotes in the tree. -/
theorem Unfolds.scopedEntry (hs : ws.Unfolds root (.dictionary h es)) (hroot : ws.parent root = none)
    (name : String) : Option.Rel ws.Unfolds (ws.scopedEntry root name)
      (Lookup.scopedEntry Entry.inspection [⟨es, ws.isTransparent root⟩] name) := by
  have hmembers : Lookup.Agree ws.inspection Entry.inspection ws.Unfolds (ws.members root) es :=
    Lookup.agree_of_forall₂ (fun _ _ => Unfolds.head) (unfoldsAll_iff.mp hs.members)
  rw [Workspace.scopedEntry, frames_of_root hroot]
  exact Lookup.scopedEntry_agree (fun _ _ => Unfolds.agree) (.cons ⟨rfl, hmembers⟩ .nil) name

/-- **Looking up paths and reading values agree.** In a dictionary tree without patterns a path
denotes an entry if it leads to a value in the value of the tree, and then the entry has that value;
and each dictionary has the keywords that its value has as keys, in the same order. -/
theorem scopedEntry_value (hs : ws.Unfolds root (.dictionary h es)) (hroot : ws.parent root = none)
    (hes : AllUnpatterned es) (hpath : ∀ name ∈ key :: path, Lookup.IsComponent name)
    (hmark : key.toList.head? ≠ some '!') (hout : key ≠ "..") :
    (ws.scopedEntry root ("/".intercalate (key :: path))).map (fun r => (ws.tree r).value) =
        (ws.tree root).value.at? (key :: path) ∧
      ∀ d k inner, ws.Reaches root d → ws.tree d = .dictionary k inner →
        ∃ fs, (ws.tree d).value = .map fs ∧ keys inner = fs.map Prod.fst := by
  constructor
  · rw [hs.tree, ← value_scopedEntry h (ws.isTransparent root) hes hpath hmark hout]
    have hrel := hs.scopedEntry hroot ("/".intercalate (key :: path))
    generalize ws.scopedEntry root ("/".intercalate (key :: path)) = found,
      Lookup.scopedEntry Entry.inspection _ ("/".intercalate (key :: path)) = found' at hrel
    cases hrel with
    | none => rfl
    | some hunfolds => rw [Option.map_some, Option.map_some, hunfolds.tree]
  · intro d k inner _ hd
    refine ⟨fields [] inner, ?_, (keys_fields inner).symm⟩
    rw [hd, value]

/-- A dictionary that is shadowed, a path that leads through the newer one. -/
theorem scopedEntry_value_shadowed :
    (storedFirst.2.scopedEntry storedFirst.1 "a/x").map (fun r => (storedFirst.2.tree r).value) =
      shadowingDictionary.value.at? ["a", "x"] := by
  have hplain : shadowingDictionary.Unpatterned := by unfold Unpatterned; decide
  obtain ⟨owned, howns, -, hparent⟩ := plant_owns hplain.checked {} none
  have hroot : storedFirst.2.parent storedFirst.1 = none := hparent howns.isDictionary
  have hnames : ∀ name ∈ ["a", "x"], Lookup.IsComponent name := by
    unfold Lookup.IsComponent
    decide
  have hvalue := (scopedEntry_value howns.unfolds hroot (unpatterned_dictionary.mp hplain).2 hnames
    (by decide) (by decide)).1
  rwa [howns.unfolds.tree] at hvalue

end Workspace

end CaseDict
