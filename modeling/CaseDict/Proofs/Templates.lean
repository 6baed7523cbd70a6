import CaseDict.Resolution
/-! # Pieces of templates

A template that is written as texts without sigils and as references between them has these pieces,
and each of its texts stays as it is. -/

namespace CaseDict

namespace Template

variable {cs name more : List Char}

/-- A text without a sigil is taken letter by letter. -/
theorem pieces_append (h : '$' ∉ cs) (more : List Char) :
    pieces (cs ++ more) = cs.map .literal ++ pieces more := by
  induction cs with
  | nil => rfl
  | cons c cs ih =>
    rw [List.mem_cons, not_or] at h
    rw [List.cons_append, pieces, if_neg (Ne.symm h.1), ih h.2]
    rfl

theorem pieces_plain (h : '$' ∉ cs) : pieces cs = cs.map .literal := by
  have hpieces := pieces_append h []
  rwa [List.append_nil, pieces, List.append_nil] at hpieces

/-- A name without braces ends where no word character follows. -/
theorem splitReference?_word (hne : name ≠ []) (hname : ∀ c ∈ name, Text.isWord c = true)
    (hmore : ∀ c ∈ more.head?, Text.isWord c = false) :
    splitReference? (name ++ more) = some (name, more) := by
  obtain ⟨c, name, rfl⟩ := List.exists_cons_of_ne_nil hne
  have hbrace : c ≠ '{' := by
    rintro rfl
    exact absurd (hname '{' (by simp)) (by decide)
  have htake : (c :: name ++ more).takeWhile Text.isWord = c :: name := by
    rw [List.takeWhile_append_of_pos hname]
    cases more with
    | nil => simp
    | cons d more => simp [hmore d rfl]
  have hdrop : (c :: name ++ more).dropWhile Text.isWord = more := by
    rw [List.dropWhile_append_of_pos hname]
    cases more with
    | nil => simp
    | cons d more => simp [hmore d rfl]
  unfold splitReference?
  split
  · next heq => exact absurd (List.cons.inj heq).1 hbrace
  · rw [htake, hdrop]

/-- A reference is one piece. -/
theorem pieces_of_split {rest : List Char} (h : splitReference? cs = some (name, rest)) :
    pieces ('$' :: cs) = .reference (String.ofList name) :: pieces rest := by
  rw [pieces, if_pos rfl]
  split
  · next heq =>
    obtain ⟨rfl, rfl⟩ := Prod.mk.inj (Option.some.inj (h.symm.trans heq))
    rfl
  · next heq =>
    rw [h] at heq
    contradiction

/-- A reference without braces. -/
theorem pieces_reference (hne : name ≠ []) (hname : ∀ c ∈ name, Text.isWord c = true)
    (hmore : ∀ c ∈ more.head?, Text.isWord c = false) :
    pieces ('$' :: (name ++ more)) = .reference (String.ofList name) :: pieces more :=
  pieces_of_split (splitReference?_word hne hname hmore)

variable {ε : Type} {replace : String → Except ε String} {ps : List Piece} {text : String}

theorem expand_literals (cs : List Char) (h : expand replace ps = .ok text) :
    expand replace (cs.map .literal ++ ps) = .ok (String.ofList cs ++ text) := by
  induction cs with
  | nil => simpa using h
  | cons c cs ih =>
    rw [List.map_cons, List.cons_append, expand, ih]
    simp [bind, Except.bind, pure, Except.pure, ← String.append_assoc]

theorem expand_reference {name value : String} (hname : replace name = .ok value)
    (h : expand replace ps = .ok text) :
    expand replace (.reference name :: ps) = .ok (value ++ text) := by
  rw [expand, hname, h]
  rfl

/-- A text without a sigil is a template for itself. -/
theorem expand_pieces (h : '$' ∉ cs) : expand replace (pieces cs) = .ok (String.ofList cs) := by
  rw [pieces_plain h, ← List.append_nil (cs.map Piece.literal), expand_literals cs rfl,
    String.append_empty]

end Template

theorem expandText_of_notMem {text : String} (h : '$' ∉ text.toList) (s : Surroundings)
    (line : Int) : s.expandText text line = .ok text := by
  rw [Surroundings.expandText, Template.expand_pieces h, String.ofList_toList]

end CaseDict
