import CaseDict.Value
/-! # Forests of brackets

Tokens whose brackets nest and are closed are written as a `Forest`: a token that is no bracket, or
a forest between two brackets of one kind, and what follows it. The value of such tokens is read off
the forest (`Value.ofTokens_forest`), and brackets that are left open at the end count as closed
there. -/

namespace CaseDict

def Symbol.isBracket (s : Symbol) : Bool := s.isOpener || s.isCloser

/-- Tokens whose brackets nest and are closed. -/
inductive Forest where
  | nil
  | leaf (t : Token) (ht : t.symbol.isBracket = false) (rest : Forest)
  | group (b : Bracket) (line line' : Int) (inner rest : Forest)

namespace Forest

/-- The tokens as they are written. -/
def tokens : Forest → List Token
  | nil => []
  | leaf t _ rest => t :: rest.tokens
  | group b line line' inner rest =>
    ⟨.opener b, line⟩ :: (inner.tokens ++ ⟨.closer b, line'⟩ :: rest.tokens)

/-- The items that a forest lists: a group is the list of its own items, commas and terminators are
none, and any other token is its value. -/
def items : Forest → List Value
  | nil => []
  | leaf t _ rest =>
    if t.symbol = .comma ∨ t.symbol = .terminator then rest.items
    else .ofSymbol t.symbol :: rest.items
  | group _ _ _ inner rest => .list inner.items :: rest.items

/-- The value of a forest: of one item that item, else the list of the items. -/
def value (f : Forest) : Value :=
  match f.items with
  | [v] => v
  | vs => .list vs

end Forest

namespace Forest

/-- A forest is over where a closing bracket follows that is not its own. -/
theorem tokens_append_inj {f g : Forest} {us vs : List Token}
    (hus : ∀ t ∈ us.head?, t.symbol.isCloser) (hvs : ∀ t ∈ vs.head?, t.symbol.isCloser)
    (h : f.tokens ++ us = g.tokens ++ vs) : f = g ∧ us = vs := by
  have hleaf {t : Token} (ht : t.symbol.isBracket = false) : t.symbol.isCloser ≠ true := by
    rw [(Bool.or_eq_false_iff.mp ht).2]
    exact Bool.false_ne_true
  -- The forest in a group is followed by the bracket that closes it, so what is asked of the rest
  -- holds there as well.
  induction f generalizing g us vs with
  | nil =>
    cases g with
    | nil => exact ⟨rfl, h⟩
    | leaf t ht rest =>
      obtain rfl : us = t :: (rest.tokens ++ vs) := h
      exact absurd (hus t rfl) (hleaf ht)
    | group =>
      obtain rfl := h
      exact absurd (hus _ rfl) Bool.false_ne_true
  | leaf t ht rest ih =>
    cases g with
    | nil =>
      obtain rfl : vs = t :: (rest.tokens ++ us) := h.symm
      exact absurd (hvs t rfl) (hleaf ht)
    | leaf t' ht' rest' =>
      obtain ⟨rfl, hrest⟩ := List.cons.inj h
      obtain ⟨rfl, heq⟩ := ih hus hvs hrest
      exact ⟨rfl, heq⟩
    | group =>
      obtain ⟨rfl, -⟩ := List.cons.inj h
      contradiction
  | group b line line' inner rest ihInner ih =>
    cases g with
    | nil =>
      obtain rfl := h.symm
      exact absurd (hvs _ rfl) Bool.false_ne_true
    | leaf t' ht' rest' =>
      obtain ⟨rfl, -⟩ := List.cons.inj h
      contradiction
    | group b' l l' inner' rest' =>
      obtain ⟨hopen, hinner⟩ := List.cons.inj h
      rw [List.append_eq, List.append_eq, List.append_assoc, List.append_assoc] at hinner
      obtain ⟨rfl, hafter⟩ := ihInner (by simp [Symbol.isCloser]) (by simp [Symbol.isCloser]) hinner
      obtain ⟨hclose, hrest⟩ := List.cons.inj hafter
      obtain ⟨rfl, heq⟩ := ih hus hvs hrest
      cases hopen
      cases hclose
      exact ⟨rfl, heq⟩

/-- Tokens are those of at most one forest. -/
theorem tokens_injective : Function.Injective tokens := by
  intro f g h
  have hend : ∀ t ∈ ([] : List Token).head?, t.symbol.isCloser := by simp
  exact (tokens_append_inj hend hend (congrArg (· ++ []) h)).1

end Forest

/-- The brackets of the tokens nest and are closed. -/
def Token.Balanced (ts : List Token) : Prop := ∃ f : Forest, f.tokens = ts

namespace Value

variable {opened : List (List Value)} {current : List Value}

theorem items_leaf {t : Token} {ts : List Token} (ht : t.symbol.isBracket = false) :
    items opened current (t :: ts) =
      if t.symbol = .comma ∨ t.symbol = .terminator then items opened current ts
      else items opened (current ++ [ofSymbol t.symbol]) ts := by
  obtain ⟨y, line⟩ := t
  cases y <;> first | contradiction | simp [items]

/-- The items of a forest go to the group being read, and the groups around it are left as they
are. -/
theorem items_tokens (f : Forest) (ts : List Token) :
    items opened current (f.tokens ++ ts) = items opened (current ++ f.items) ts := by
  induction f generalizing opened current ts with
  | nil => rw [Forest.items, List.append_nil]; rfl
  | leaf t ht rest ih =>
    rw [Forest.tokens, List.cons_append, items_leaf ht, Forest.items]
    split
    · exact ih ts
    · rw [ih, List.append_assoc, List.singleton_append]
  | group b line line' inner rest ihInner ih =>
    rw [Forest.tokens, List.cons_append, List.append_assoc, List.cons_append]
    calc items opened current (⟨.opener b, line⟩ :: (inner.tokens ++ ⟨.closer b, line'⟩ ::
          (rest.tokens ++ ts)))
      _ = items (current :: opened) inner.items (⟨.closer b, line'⟩ :: (rest.tokens ++ ts)) :=
        ihInner _
      _ = items opened (current ++ [.list inner.items]) (rest.tokens ++ ts) := rfl
      _ = _ := by rw [ih, List.append_assoc, Forest.items, List.singleton_append]

theorem items_forest (f : Forest) : items [] current f.tokens = current ++ f.items := by
  rw [← List.append_nil f.tokens, items_tokens]
  rfl

end Value

/-! ### Closing brackets that are missing -/

namespace Token

/-- How many brackets are opened. -/
def openers (ts : List Token) : Nat := ts.countP (·.symbol.isOpener)

/-- How many brackets are closed. -/
def closers (ts : List Token) : Nat := ts.countP (·.symbol.isCloser)

theorem openers_append (ts us : List Token) : openers (ts ++ us) = openers ts + openers us :=
  List.countP_append

theorem closers_append (ts us : List Token) : closers (ts ++ us) = closers ts + closers us :=
  List.countP_append

theorem openers_cons (t : Token) (ts : List Token) :
    openers (t :: ts) = openers [t] + openers ts := openers_append [t] ts

theorem closers_cons (t : Token) (ts : List Token) :
    closers (t :: ts) = closers [t] + closers ts := closers_append [t] ts

/-- Where brackets nest and are closed as many are opened as closed. -/
theorem Balanced.openers_eq_closers {ts : List Token} (h : Balanced ts) :
    openers ts = closers ts := by
  obtain ⟨f, rfl⟩ := h
  induction f with
  | nil => rfl
  | leaf t ht rest ih =>
    obtain ⟨ho, hc⟩ := Bool.or_eq_false_iff.mp ht
    rw [Forest.tokens, openers_cons, closers_cons, ih]
    simp [openers, closers, ho, hc]
  | group b line line' inner rest ihInner ih =>
    rw [Forest.tokens, openers_cons, closers_cons, openers_append, closers_append,
      openers_cons _ rest.tokens, closers_cons _ rest.tokens, ihInner, ih]
    change 1 + (_ + (0 + _)) = 0 + (_ + (1 + _))
    omega

theorem openers_eq_zero {cs : List Token} (h : ∀ t ∈ cs, t.symbol.isCloser) : openers cs = 0 := by
  refine List.countP_eq_zero.mpr fun t ht ho => ?_
  have hc := h t ht
  obtain ⟨y, line⟩ := t
  cases y <;> contradiction

theorem closers_eq_length {cs : List Token} (h : ∀ t ∈ cs, t.symbol.isCloser) :
    closers cs = cs.length := List.countP_eq_length.mpr h

end Token

namespace Value

open Token

variable {ts cs : List Token} {opened : List (List Value)} {current : List Value}

/-- At the end the groups that are open are closed anyway. -/
theorem items_closers (hcs : ∀ t ∈ cs, t.symbol.isCloser) (h : cs.length ≤ opened.length) :
    items opened current cs = closeAll current opened := by
  induction cs generalizing opened current with
  | nil => rfl
  | cons t cs ih =>
    obtain ⟨ht, hrest⟩ := List.forall_mem_cons.mp hcs
    obtain ⟨y, line⟩ := t
    cases y with
    | closer b =>
      cases opened with
      | nil => contradiction
      | cons outer more => exact ih hrest (Nat.le_of_succ_le_succ h)
    | _ => contradiction

/-- Closing brackets after tokens that leave as many groups open change nothing. -/
theorem items_append_closers (hcs : ∀ t ∈ cs, t.symbol.isCloser)
    (h : closers ts + cs.length ≤ openers ts + opened.length) :
    items opened current (ts ++ cs) = items opened current ts := by
  -- Each token keeps the bound. A closing bracket where no group is open is passed over, but it
  -- counts as well.
  induction ts generalizing opened current with
  | nil => exact items_closers hcs (by simpa [closers, openers] using h)
  | cons t ts ih =>
    obtain ⟨y, line⟩ := t
    rw [closers_cons, openers_cons] at h
    cases y with
    | opener b =>
      change 0 + _ + _ ≤ 1 + _ + _ at h
      exact ih (by rw [List.length_cons]; omega)
    | closer b =>
      change 1 + _ + _ ≤ 0 + _ + _ at h
      cases opened with
      | nil => exact ih (by omega)
      | cons outer more =>
        rw [List.length_cons] at h
        exact ih (by omega)
    | _ =>
      change 0 + _ + _ ≤ 0 + _ + _ at h
      exact ih (by omega)

theorem items_of_append_closers (hcs : ∀ t ∈ cs, t.symbol.isCloser) (h : Balanced (ts ++ cs)) :
    items [] [] ts = items [] [] (ts ++ cs) := by
  have hcount := h.openers_eq_closers
  rw [openers_append, closers_append, openers_eq_zero hcs, closers_eq_length hcs] at hcount
  exact (items_append_closers hcs (by omega)).symm

/-- The value of tokens whose brackets nest and are closed is that of the forest they are. The items
of one such list after another are those of both, and closing brackets may be missing at the end. -/
theorem ofTokens_forest :
    (∀ f : Forest, ofTokens f.tokens = f.value) ∧
      (∀ ts us, Balanced ts → Balanced us →
        items [] [] (ts ++ us) = items [] [] ts ++ items [] [] us) ∧
      ∀ ts cs, (∀ t ∈ cs, t.symbol.isCloser) → Balanced (ts ++ cs) →
        ofTokens ts = ofTokens (ts ++ cs) := by
  refine ⟨fun f => ?_, ?_, fun ts cs hcs h => ?_⟩
  · rw [ofTokens, items_forest]
    rfl
  · rintro _ _ ⟨f, rfl⟩ ⟨g, rfl⟩
    rw [items_tokens, items_forest, items_forest, items_forest]
    rfl
  · rw [ofTokens, ofTokens, items_of_append_closers hcs h]

/-- Two groups that are not closed. -/
theorem ofTokens_unclosed :
    ofTokens [⟨.word "a", 1⟩, ⟨.comma, 1⟩, ⟨.opener .round, 1⟩, ⟨.word "b", 1⟩, ⟨.terminator, 1⟩,
        ⟨.opener .square, 2⟩, ⟨.word "c", 2⟩] =
      .list [.text "a", .list [.text "b", .list [.text "c"]]] := by
  let inner : Forest := .leaf ⟨.word "b", 1⟩ rfl (.leaf ⟨.terminator, 1⟩ rfl
    (.group .square 2 2 (.leaf ⟨.word "c", 2⟩ rfl .nil) .nil))
  let f : Forest := .leaf ⟨.word "a", 1⟩ rfl (.leaf ⟨.comma, 1⟩ rfl (.group .round 1 2 inner .nil))
  calc ofTokens _
    _ = ofTokens (_ ++ [⟨.closer .square, 2⟩, ⟨.closer .round, 2⟩]) :=
      ofTokens_forest.2.2 _ _ (by decide) ⟨f, rfl⟩
    _ = f.value := ofTokens_forest.1 f
    _ = _ := rfl

end Value

end CaseDict
