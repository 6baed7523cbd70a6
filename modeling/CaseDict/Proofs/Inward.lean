import CaseDict.Proofs.Framing
import CaseDict.Proofs.Paths
import CaseDict.Proofs.Withholding
/-! # Names that lead inwards

A name leads outwards if it begins at the outermost dictionary, with `!`, or at the dictionary one
further out, with `..`. All other names are looked up from the innermost dictionary outwards, and
then inwards along their path (`Lookup.scopedEntry_inward`). If texts that hold names that lead
outwards are withheld from a read, only names that lead inwards are looked up in it
(`Vocabulary.inward`). -/

namespace CaseDict

open Entry

namespace Lookup

/-- The name begins at the outermost dictionary, or at the one around the innermost. -/
def leadsOutwards (name : String) : Bool :=
  name.toList.head? == some '!' || (components name.toList).head? == some ".."

variable {ε : Type} (view : Inspection ε) (frames : List (Frame ε))

/-- A path that does not begin outwards is followed from the innermost frame that has its first
name. -/
theorem follow_cons {key : String} (hkey : key ≠ "..") (path : List String) :
    follow view frames true (key :: path) =
      (findOutward view key frames).bind (descend view · path) := by
  cases frames <;> rw [follow.eq_def] <;> simp only [if_neg hkey] <;> rfl

/-- The entry that a name denotes that leads inwards. -/
theorem scopedEntry_inward {name : String} (h : leadsOutwards name = false) :
    scopedEntry view frames name = match components name.toList with
      | [] => none
      | key :: path => (findOutward view key frames).bind (descend view · path) := by
  obtain ⟨hmark, hout⟩ := Bool.or_eq_false_iff.mp h
  unfold scopedEntry
  split
  · next hname =>
    rw [hname] at hmark
    contradiction
  · generalize components name.toList = path at hout ⊢
    cases path with
    | nil => rfl
    | cons key path => exact follow_cons view frames (by rintro rfl; contradiction) path

end Lookup

/-- No name that is looked up when the token is expanded leads outwards. -/
def Token.Inward (t : Token) : Prop := ∀ name ∈ t.symbol.names, Lookup.leadsOutwards name = false

/-- The text holds a name that leads outwards, in a reference or in a string. -/
def refersOutwards (text : String) : Bool :=
  (Lexer.lex 1 text.toList).tokens.any fun t => t.symbol.names.any Lookup.leadsOutwards

/-- Only names that lead inwards are looked up. -/
def Vocabulary.inward : Vocabulary :=
  { literal Token.Inward (fun _ => True) fun _ _ => trivial with
    names := fun name => Lookup.leadsOutwards name = false
    names_of_plain := fun h hn => h _ hn }

variable {setup : Setup} {text : String}

theorem inward_of_refersOutwards (h : refersOutwards text = false) :
    ∀ t ∈ (Lexer.lex 1 text.toList).tokens, t.Inward := by
  simpa [refersOutwards, Token.Inward] using h

theorem Vocabulary.knows_inward {i : Input} (h : ∀ t ∈ i.tokens, t.Inward) : inward.Knows i :=
  ⟨h, fun _ _ => trivial⟩

variable (setup) in
/-- Where texts that refer outwards are withheld, no file that is read does. -/
theorem Vocabulary.knows_of_readText {p : Path}
    (h : (setup.withholding refersOutwards).files.readText p = .ok text) :
    inward.Knows (.ofText p.text text) := by
  refine knows_inward (inward_of_refersOutwards ?_)
  have hread := (Files.readText_withholding setup.files refersOutwards p).symm.trans h
  cases hfile : setup.files.readText p with
  | error f =>
    rw [hfile] at hread
    contradiction
  | ok text' =>
    rw [hfile] at hread
    obtain rfl := Except.ok.inj hread
    dsimp only
    split
    · have hlex : (Lexer.lex 1 "\"".toList).tokens = [] := by cbv
      rw [refersOutwards, hlex]
      rfl
    · next h => exact Bool.eq_false_iff.mpr h

variable (setup) in
/-- Where texts that refer outwards are withheld, no value of the environment does. -/
theorem inward_of_environmentTokens {name : String} {line : Int} {ts : List Token}
    (h : (setup.withholding refersOutwards).settings.environment.lookup name = some text)
    (hts : Surroundings.environmentTokens name text line = .ok ts) : ∀ t ∈ ts, t.Inward := by
  rw [Setup.lookup_withholding] at h
  have hinward : refersOutwards text = false := by
    simpa using (Option.filter_eq_some_iff.mp h).2
  obtain ⟨us, hlex, rfl⟩ := Surroundings.environmentTokens_eq_ok hts
  have hus := inward_of_refersOutwards hinward
  rw [hlex] at hus
  intro t ht
  obtain ⟨u, hu, rfl⟩ := List.mem_map.mp ht
  exact hus u hu

end CaseDict

/-! ## Scoped names that are paths

A path is written as its names with slashes between them, and its names are read back from that
(`Lookup.components_intercalate`). So a path that begins with a name is looked up outwards by that
name and then goes inwards (`Lookup.scopedEntry_path`), and one that begins with `!` does so from the
outermost dictionary (`Lookup.scopedEntry_outermost`). -/

namespace CaseDict

namespace Lookup

/-- A name that can be a component of a path. -/
def IsComponent (name : String) : Prop := name ≠ "" ∧ '/' ∉ name.toList

variable {ε : Type} (view : Inspection ε) {key name : String} {path : List String}

/-- The names of a path are read back from its text. -/
theorem components_intercalate (h : ∀ name ∈ path, IsComponent name) :
    components ("/".intercalate path).toList = path := by
  by_cases hpath : path = []
  · subst hpath
    rfl
  have hkeep (name : String) (hname : name ∈ path) :
      (if name.toList.isEmpty then none else some (String.ofList name.toList)) = some name := by
    rw [if_neg (by simp [(h name hname).1]), String.ofList_toList]
  rw [components, Path.splitOn_intercalate hpath fun s hs => (h s hs).2, List.filterMap_map]
  exact (List.filterMap_congr hkeep).trans List.filterMap_some

/-- The text of a path begins as its first name does. -/
theorem head?_intercalate (hkey : key ≠ "") (path : List String) :
    ("/".intercalate (key :: path)).toList.head? = key.toList.head? := by
  obtain ⟨c, cs, hcs⟩ := List.exists_cons_of_ne_nil fun h => hkey (String.toList_eq_nil_iff.mp h)
  rw [String.toList_intercalate, List.map_cons, hcs]
  cases path <;> simp [List.intercalate]

/-- The text of a path leads outwards if its first name does. -/
theorem leadsOutwards_intercalate (h : ∀ name ∈ key :: path, IsComponent name)
    (hmark : key.toList.head? ≠ some '!') (hout : key ≠ "..") :
    leadsOutwards ("/".intercalate (key :: path)) = false := by
  have hkey : key ≠ "" := (h key List.mem_cons_self).1
  rw [leadsOutwards, components_intercalate h, head?_intercalate hkey, Bool.or_eq_false_iff]
  exact ⟨by simpa using hmark, by simpa using hout⟩

/-- A path is followed from the innermost frame that has its first name. -/
theorem scopedEntry_path (frames : List (Frame ε)) (h : ∀ name ∈ key :: path, IsComponent name)
    (hmark : key.toList.head? ≠ some '!') (hout : key ≠ "..") :
    scopedEntry view frames ("/".intercalate (key :: path)) =
      (findOutward view key frames).bind (descend view · path) := by
  rw [scopedEntry_inward view frames (leadsOutwards_intercalate h hmark hout),
    components_intercalate h]

/-- A path with a mark before it is followed from the outermost frame. -/
theorem scopedEntry_outermost {frames : List (Frame ε)} {f : Frame ε}
    (hlast : frames.getLast? = some f) (h : ∀ name ∈ key :: path, IsComponent name)
    (hout : key ≠ "..") :
    scopedEntry view frames ("!" ++ "/".intercalate (key :: path)) =
      (find view key f.entries).bind (descend view · path) := by
  have hname : ("!" ++ "/".intercalate (key :: path)).toList =
      '!' :: ("/".intercalate (key :: path)).toList := by simp
  simp only [scopedEntry, hname, hlast, components_intercalate h, Option.toList_some]
  rw [follow.eq_def]
  simp only [if_neg hout, Bool.false_eq_true, if_false]
  rfl

end Lookup

end CaseDict
