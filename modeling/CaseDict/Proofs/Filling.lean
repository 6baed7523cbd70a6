import CaseDict.Proofs.Respelling
import CaseDict.Proofs.Templates
/-! # Filling templates

A template is written as texts without sigils and references between them. It is filled from left to
right in one pass: what comes of it is what comes of each text and each reference by itself, one
after the other, and what stands for a reference is not searched again (`expandText_texts`). -/

namespace CaseDict

namespace Template

/-! ### Templates as they are written -/

/-- A reference in a template, and the text behind it up to the next one. -/
structure Part where
  name : String
  braced : Bool
  text : String
  plain : '$' ∉ text.toList
  nonempty : name.toList ≠ []
  /-- Braces enclose a name without a closing brace. Without braces the name is made of word
  characters, and none follows. -/
  ends : if braced then '\x7d' ∉ name.toList
    else (∀ c ∈ name.toList, Text.isWord c = true) ∧ ∀ c ∈ text.toList.head?, Text.isWord c = false

/-- The reference by itself. -/
def Part.reference (p : Part) : String :=
  if p.braced then "$\x7b" ++ p.name ++ "\x7d" else "$" ++ p.name

/-- The texts and references that a template is made of. -/
def texts (start : String) (parts : List Part) : List String :=
  start :: parts.flatMap fun p => [p.reference, p.text]

variable {name more : List Char}

theorem splitReference?_braced (hne : name ≠ []) (hname : '\x7d' ∉ name) :
    splitReference? ('\x7b' :: (name ++ '\x7d' :: more)) = some (name, more) := by
  obtain ⟨c, name, rfl⟩ := List.exists_cons_of_ne_nil hne
  have hne' (d : Char) (hd : d ∈ c :: name) : (d != '\x7d') = true :=
    bne_iff_ne.mpr fun h => hname (h ▸ hd)
  obtain ⟨htake, hdrop⟩ := Lexer.span_append (r := '\x7d' :: more) hne' (by simp)
  rw [splitReference?, htake, hdrop]
  rfl

/-- A reference is one piece in front of all that may follow it. -/
theorem Part.pieces_reference (p : Part) {more : List Char}
    (hmore : p.braced = false → ∀ c ∈ more.head?, Text.isWord c = false) :
    pieces (p.reference.toList ++ more) = .reference p.name :: pieces more := by
  have hends := p.ends
  unfold Part.reference
  cases hb : p.braced with
  | true =>
    rw [hb, if_pos rfl] at hends
    have hsplit : splitReference? ('\x7b' :: (p.name.toList ++ '\x7d' :: more)) = _ :=
      splitReference?_braced p.nonempty hends
    simpa using pieces_of_split hsplit
  | false =>
    rw [hb, if_neg Bool.false_ne_true] at hends
    simpa using Template.pieces_reference p.nonempty hends.1 (hmore hb)

theorem Part.pieces_self (p : Part) : pieces p.reference.toList = [.reference p.name] := by
  have hend : p.braced = false → ∀ c ∈ ([] : List Char).head?, Text.isWord c = false := by simp
  have h := p.pieces_reference hend
  rwa [List.append_nil, pieces] at h

theorem Part.head_reference (p : Part) (more : List Char) :
    (p.reference.toList ++ more).head? = some '$' := by
  unfold reference
  cases p.braced <;> simp

/-- The pieces of a template are those of its texts and references. -/
theorem pieces_parts (parts : List Part) :
    pieces (parts.flatMap fun p => p.reference.toList ++ p.text.toList) =
      parts.flatMap fun p => .reference p.name :: p.text.toList.map .literal := by
  induction parts with
  | nil => rw [List.flatMap_nil, pieces]; rfl
  | cons p ps ih =>
    have hmore : p.braced = false → ∀ c ∈ (p.text.toList ++
        ps.flatMap fun p => p.reference.toList ++ p.text.toList).head?, Text.isWord c = false := by
      intro hb c hc
      have hends := p.ends
      rw [hb, if_neg Bool.false_ne_true] at hends
      rw [List.head?_append] at hc
      cases htext : p.text.toList.head? with
      | some d =>
        rw [htext] at hc
        exact hends.2 c (htext.trans hc)
      | none =>
        rw [htext] at hc
        cases ps with
        | nil => contradiction
        | cons q qs =>
          rw [List.flatMap_cons, List.append_assoc] at hc
          obtain rfl : '$' = c := Option.some.inj ((q.head_reference _).symm.trans hc)
          decide
    rw [List.flatMap_cons, List.append_assoc, p.pieces_reference hmore, pieces_append p.plain, ih]
    rfl

theorem pieces_texts {start : String} (hstart : '$' ∉ start.toList) (parts : List Part) :
    pieces (String.join (texts start parts)).toList =
      (texts start parts).flatMap fun t => pieces t.toList := by
  rw [texts, String.join_cons, String.toList_append, pieces_append hstart, String.toList_join,
    List.flatMap_cons, pieces_plain hstart, List.flatMap_assoc, List.flatMap_assoc]
  refine congrArg _ (Eq.trans ?_ (pieces_parts parts) |>.trans ?_)
  · simp
  · simp [Part.pieces_self, pieces_plain (Part.plain _)]

variable {ε : Type} {replace : String → Except ε String}

theorem expand_append (ps qs : List Piece) : expand replace (ps ++ qs) = do
    return (← expand replace ps) ++ (← expand replace qs) := by
  induction ps with
  | nil =>
    change expand replace qs = do return "" ++ (← expand replace qs)
    simp only [String.empty_append, bind_pure]
  | cons p ps ih =>
    cases p <;>
      simp only [List.cons_append, expand, ih, bind_assoc, pure_bind, String.append_assoc]

/-- Texts are filled one after the other. -/
theorem expand_flatMap (ts : List String) :
    expand replace (ts.flatMap fun t => pieces t.toList) = do
      return String.join (← ts.mapM fun t => expand replace (pieces t.toList)) := by
  induction ts with
  | nil => rfl
  | cons t ts ih => simp [expand_append, ih]

end Template

namespace Surroundings

open Template

/-- What a name says in a text: the tokens of the entry it denotes, one after another, or the text
of the environment. -/
def Says (s : Surroundings) (name v : String) : Prop :=
  (∃ head ts, s.find? name = some (.primitive head ts) ∧ v = " ".intercalate (ts.map plainText)) ∨
    s.find? name = none ∧ Text.isIdentifier name = true ∧ s.environment.lookup name = some v

/-- The failure of a name that says nothing. -/
def silence (s : Surroundings) (name : String) (line : Int) : Failure :=
  match s.find? name with
  | some _ => .unplaced (.dictionaryInText name) line
  | none => .unplaced (.undefinedVariable name) line

variable {s : Surroundings} {line : Int} {name v : String}

theorem Says.text (h : s.Says name v) : s.text line name = .ok v := by
  unfold Surroundings.text environmentText?
  rcases h with ⟨head, ts, hfind, rfl⟩ | ⟨hfind, hname, hv⟩
  · rw [hfind]
  · rw [hfind, if_pos hname, hv]

theorem text_of_not_says (h : ¬∃ v, s.Says name v) :
    s.text line name = .error (s.silence name line) := by
  unfold Surroundings.text environmentText? silence
  rcases hfind : s.find? name with _ | ⟨head, ts⟩ | ⟨head, es⟩
  · dsimp only
    split
    · next v hv =>
      split at hv
      · next hname => exact absurd ⟨v, .inr ⟨hfind, hname, hv⟩⟩ h
      · contradiction
    · rfl
  · exact absurd ⟨_, .inl ⟨head, ts, hfind, rfl⟩⟩ h
  · rfl

theorem expandText_reference (p : Part) : s.expandText p.reference line = s.text line p.name := by
  rw [expandText, p.pieces_self, expand]
  cases s.text line p.name with
  | error f => rfl
  | ok v => exact congrArg Except.ok String.append_empty

/-- References that all say something, and the texts behind them. -/
theorem mapM_parts {value : String → String} {parts : List Part}
    (h : ∀ p ∈ parts, s.Says p.name (value p.name)) :
    ((parts.flatMap fun p => [p.reference, p.text]).mapM fun t => s.expandText t line) =
      .ok (parts.flatMap fun p => [value p.name, p.text]) := by
  induction parts with
  | nil => rfl
  | cons p ps ih =>
    obtain ⟨hp, hps⟩ := List.forall_mem_cons.mp h
    simp only [List.flatMap_cons, List.cons_append, List.nil_append, List.mapM_cons, ih hps,
      expandText_reference, hp.text, expandText_of_notMem p.plain]
    rfl

/-- The first reference that says nothing. -/
theorem mapM_parts_silent {before after : List Part} {p : Part}
    (hbefore : ∀ q ∈ before, ∃ v, s.Says q.name v) (hp : ¬∃ v, s.Says p.name v) :
    (((before ++ p :: after).flatMap fun p => [p.reference, p.text]).mapM fun t =>
      s.expandText t line) = .error (s.silence p.name line) := by
  induction before with
  | nil =>
    rw [List.nil_append, List.flatMap_cons, List.cons_append, List.mapM_cons, expandText_reference,
      text_of_not_says hp]
    rfl
  | cons q qs ih =>
    obtain ⟨⟨v, hv⟩, hqs⟩ := List.forall_mem_cons.mp hbefore
    simp only [List.flatMap_cons, List.cons_append, List.nil_append, List.mapM_cons, ih hqs,
      expandText_reference, hv.text, expandText_of_notMem q.plain]
    rfl

/-- A template is filled piece by piece, each of them by itself. If every name says something, that
stands for its reference as it is; otherwise the first name that says nothing decides. -/
theorem expandText_texts (s : Surroundings) (line : Int) {start : String}
    (hstart : '$' ∉ start.toList) (parts : List Part) :
    (s.expandText (String.join (texts start parts)) line = do
      return String.join (← (texts start parts).mapM fun t => s.expandText t line)) ∧
    (∀ value : String → String, (∀ p ∈ parts, s.Says p.name (value p.name)) →
      s.expandText (String.join (texts start parts)) line =
        .ok (String.join (start :: parts.flatMap fun p => [value p.name, p.text]))) ∧
    ∀ before p after, parts = before ++ p :: after → (∀ q ∈ before, ∃ v, s.Says q.name v) →
      (¬∃ v, s.Says p.name v) →
        s.expandText (String.join (texts start parts)) line = .error (s.silence p.name line) := by
  have hfill : s.expandText (String.join (texts start parts)) line = do
      return String.join (← (texts start parts).mapM fun t => s.expandText t line) := by
    rw [expandText, pieces_texts hstart, expand_flatMap]
    rfl
  have hcons : ((texts start parts).mapM fun t => s.expandText t line) = do
      return start :: (← (parts.flatMap fun p => [p.reference, p.text]).mapM fun t =>
        s.expandText t line) := by
    rw [texts, List.mapM_cons, expandText_of_notMem hstart]
    rfl
  refine ⟨hfill, fun value hvalue => ?_, ?_⟩
  · rw [hfill, hcons, mapM_parts hvalue]
    rfl
  · rintro before p after rfl hbefore hp
    rw [hfill, hcons, mapM_parts_silent hbefore hp]
    rfl

/-- What stands for the two references has references of its own, which stay. -/
theorem expandText_once :
    (⟨[⟨[.primitive ⟨"x", false, 1, 1⟩ [⟨.quoted "$B", 1⟩, ⟨.number (.int 2), 1⟩]], false⟩],
        [("B", "${x}")]⟩ : Surroundings).expandText "a ${x}-$B$x" 1 =
      .ok "a $B 2-${x}$B 2" := by
  have hstart : '$' ∉ "a ".toList := by decide
  have hend : ∀ c ∈ "".toList.head?, Text.isWord c = false := by simp
  let parts : List Part := [⟨"x", true, "-", by decide, by decide, by decide⟩,
    ⟨"B", false, "", by decide, by decide, List.forall_mem_singleton.mpr rfl, hend⟩,
    ⟨"x", false, "", by decide, by decide, List.forall_mem_singleton.mpr rfl, hend⟩]
  let value (name : String) : String := if name = "x" then "$B 2" else "${x}"
  refine (expandText_texts _ 1 hstart parts).2.1 value ?_
  simp only [parts, List.forall_mem_cons, List.not_mem_nil, false_implies, implies_true, and_true]
  exact ⟨.inl ⟨_, _, rfl, rfl⟩, .inr ⟨rfl, by decide, rfl⟩, .inl ⟨_, _, rfl, rfl⟩⟩

end Surroundings

end CaseDict
