import CaseDict.Proofs.Fallback
/-! # Reads from which texts are withheld

Texts can be withheld from a read: a file with such a text can still be found, but nothing can be
read in it, and a variable with such a value is not in the environment. A read that succeeds all the
same pulls in none of them, and comes to the same when they are there (`Reader.exec_withholding`).

The texts that are withheld here are those that refer outwards: to the outermost dictionary with
`!` or to one further out with `..`. Where they are withheld, no name that is looked up leads
outwards (`Vocabulary.inward`). -/

namespace CaseDict

open Expansion Entry

/-- What is in a file that cannot be read: a string that does not end. -/
def Files.illegible : ByteArray := ⟨#[34]⟩

/-- The files, but nothing can be read in those whose text is withheld. -/
def Files.withholding (fs : Files) (withheld : String → Bool) : Files where
  current := fs.current
  find path := match fs.find path with
    | .file octets => .file (if withheld (Text.ofOctets octets) then illegible else octets)
    | found => found

/-- The setup without texts that are withheld, in files and in the environment. -/
def Setup.withholding (s : Setup) (withheld : String → Bool) : Setup where
  settings := { s.settings with
    environment := s.settings.environment.filter fun p =>
      !(s.settings.environment.lookup p.1).any withheld }
  registry := s.registry
  files := s.files.withholding withheld

variable {withheld : String → Bool} {setup : Setup} {name text : String} {p : Path}

namespace Files

theorem isFile_withholding (fs : Files) (withheld : String → Bool) (p : Path) :
    (fs.withholding withheld).isFile p = fs.isFile p := by
  unfold isFile withholding
  dsimp only
  cases fs.find p.text <;> rfl

/-- A file is read as it is, unless its text is withheld. -/
theorem readText_withholding (fs : Files) (withheld : String → Bool) (p : Path) :
    (fs.withholding withheld).readText p = (fs.readText p).map fun text =>
      if withheld text then "\"" else text := by
  unfold readText withholding
  dsimp only
  cases fs.find p.text with
  | file octets =>
    dsimp only [Except.map]
    split
    · exact congrArg Except.ok (by cbv)
    · rfl
  | _ => rfl

end Files

/-- Nothing can be read in a file whose text is withheld. -/
theorem Input.next_illegible (name : String) : ∃ f, (ofText name "\"").next = .error f := by
  have hlex : ∃ f, Lexer.lex 1 ['"'] = ⟨[], some f⟩ := ⟨_, by cbv⟩
  obtain ⟨f, hf⟩ := hlex
  have htext : "\"".toList = ['"'] := rfl
  unfold ofText
  rw [htext, hf]
  exact ⟨_, rfl⟩

theorem lookup_filter_key (keep : String → Bool) (name : String) (es : List (String × String)) :
    (es.filter fun p => keep p.1).lookup name = if keep name then es.lookup name else none := by
  induction es with
  | nil => split <;> rfl
  | cons p es ih =>
    obtain ⟨key, value⟩ := p
    rw [List.filter_cons]
    by_cases hkey : name = key
    · subst hkey
      cases hk : keep name with
      | true => rw [if_pos rfl, List.lookup_cons_self, List.lookup_cons_self, if_pos rfl]
      | false => rw [if_neg (by simp), ih, hk, if_neg (by simp), if_neg (by simp)]
    · have hne : (name == key) = false := beq_false_of_ne hkey
      rw [List.lookup_cons, hne]
      split
      · rw [List.lookup_cons, hne, ih]
      · exact ih

/-- A variable is in the environment unless its value is withheld. -/
theorem Setup.lookup_withholding (s : Setup) (withheld : String → Bool) (name : String) :
    (s.withholding withheld).settings.environment.lookup name =
      (s.settings.environment.lookup name).filter fun text => !withheld text := by
  have hfilter := lookup_filter_key (fun name => !(s.settings.environment.lookup name).any withheld)
    name s.settings.environment
  refine hfilter.trans ?_
  cases s.settings.environment.lookup name with
  | none => exact if_pos rfl
  | some text => rfl

/-- A read from which texts are withheld, beside the read with them, until the first fails. -/
theorem SharedCourses.withholding (setup : Setup) (withheld : String → Bool) :
    SharedCourses (.upTo fun _ => True) .free Eq (setup.withholding withheld) setup := by
  have henvironment (name : String) : SameOrMissed
      ((setup.withholding withheld).settings.environment.lookup name)
      (setup.settings.environment.lookup name) True := by
    refine .of_extends trivial fun text htext => ?_
    rw [Setup.lookup_withholding] at htext
    exact (Option.filter_eq_some_iff.mp htext).1
  refine .of_mode Link.stops_never trivial ?_ (.inl rfl) (fun _ _ _ => trivial)
    (fun frames hf => ?_) rfl
  · exact {
      directive := fun _ _ _ => .refl (fun _ h => ⟨rfl, Registry.find?_of_get h⟩) fun _ _ => trivial
      includes := fun _ _ _ => by
        refine ⟨Vocabulary.whole_literal, fun p => ?_⟩
        have hread : (setup.withholding withheld).files.readText p = _ :=
          Files.readText_withholding setup.files withheld p
        rw [hread]
        cases setup.files.readText p with
        | error f => exact .error trivial
        | ok text =>
          refine .ok ?_
          dsimp only
          split
          · exact .inr ⟨(Input.next_illegible _).imp fun _ hf => ⟨hf, trivial⟩, rfl⟩
          · exact .inl ⟨rfl, Vocabulary.knows_free _⟩
      current := rfl
      isFile := Files.isFile_withholding setup.files withheld
      paths := rfl
      depth := .inl rfl
      report := fun _ => .changing (fun _ _ h => h ▸ rfl) fun _ ha => by contradiction
      shared := fun _ _ => trivial }
  · have hself : Surroundings.Alike (.upTo fun _ => True) .free
        ⟨frames, setup.settings.environment⟩ ⟨frames, setup.settings.environment⟩ :=
      Vocabulary.alike_literal (fun _ _ => trivial) hf fun _ _ _ _ _ _ _ _ => trivial
    exact {
      tokens := fun name hn line =>
        .of_or ((Surroundings.tokens_missed (henvironment name) line).imp_right
          (And.imp_right fun _ => trivial)) (hself.tokens name hn line)
      text := fun line name hn =>
        .of_or ((Surroundings.text_missed (henvironment name) line).imp_right
          (And.imp_right fun _ => trivial)) (hself.text line name hn) }

/-- Statements from which texts are withheld are read in the same way with these texts, if they can
be read without. -/
theorem Reader.exec_withholding {s u : ReadState} {depth : Int} {n : Nat} {closing : Option Heading}
    {stops : List String} {i : Input} {p : Taken (Option Token) i}
    (hs : s.scope.Carries Token.AllLiteral)
    (h : exec (entries (setup.withholding withheld) depth n closing stops i) s = (.ok p, u)) :
    exec (entries setup depth n closing stops i) s = (.ok p, u) ∧
      u.scope.Carries Token.AllLiteral := by
  have hcourse : Follows ((Link.upTo fun _ => True).sharing Token.AllLiteral Eq)
      (Watched.entries .never (setup.withholding withheld) depth n closing stops i)
      (entries setup depth n closing stops i) (Leaves .free (Same fun _ => True)) :=
    (SharedCourses.withholding setup withheld).entries (x := ()) (.inl rfl)
      (Vocabulary.knows_free i) n closing stops
  have hends := hcourse.ends s s ⟨rfl, hs, rfl, rfl⟩
  rw [Watched.entries_never, h] at hends
  generalize exec (entries setup depth n closing stops i) s = q at hends
  obtain ⟨_, scope, mode, log⟩ := q
  cases hends with
  | @ok _ p' _ _ hp hrel =>
    obtain ⟨ending, rest⟩ := p
    obtain ⟨ending', rest'⟩ := p'
    obtain ⟨⟨rfl, -⟩, hrest, -⟩ := hp
    obtain ⟨hscope, hcarries, hmode, hlog⟩ := hrel
    obtain ⟨scope', mode', log'⟩ := u
    obtain rfl : rest = rest' := hrest
    obtain rfl : scope' = scope := hscope
    obtain rfl : mode' = mode := hmode
    obtain rfl : log' = log := hlog
    exact ⟨rfl, hcarries⟩

end CaseDict
