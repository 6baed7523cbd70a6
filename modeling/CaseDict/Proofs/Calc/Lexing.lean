import CaseDict.Proofs.Calc.Numerals
import CaseDict.Proofs.Calc.Parsing
/-! # Formulas are split into lexemes

A formula may be written with any spaces between its marks (`written`). Its text is split into one
lexeme for each mark (`lexemes?_written`), since no two marks that meet run together, and unless
its parentheses nest too deep. -/

namespace CaseDict.Calc

variable {α : Type} {t : Tier}

/-! ### Marks side by side -/

/-- The signs of formulas. -/
def signs : List String := ["(", ")", "**", "-", "*", "/", "//", "%", "+"]

namespace Mark

/-- A formula may begin with the mark. -/
def Begins : Mark α → Prop
  | operand _ => True
  | sign s => s = "(" ∨ s = "-"

/-- A formula may end with the mark. -/
def Ends : Mark α → Prop
  | operand _ => True
  | sign s => s = ")"

/-- The second mark may follow the first. -/
def Meets : Mark α → Mark α → Prop
  | operand _, operand _ => False
  | sign s, sign s' => s = ")" ∨ s' = "(" ∨ s' = "-"
  | _, _ => True

theorem Begins.meets {m : Mark α} (h : m.Begins) (s : String) : Meets (.sign s) m := by
  cases m with
  | operand a => trivial
  | sign s' => exact .inr h

theorem Ends.meets {m : Mark α} (h : m.Ends) (s : String) : Meets m (.sign s) := by
  cases m with
  | operand a => trivial
  | sign s' => exact .inl h

end Mark

/-- Marks in an order in which formulas have them. -/
structure Orderly (ms : List (Mark α)) : Prop where
  chain : ms.IsChain Mark.Meets
  begins : ∃ m ∈ ms.head?, m.Begins
  ends : ∃ m ∈ ms.getLast?, m.Ends
  signs : ∀ s, .sign s ∈ ms → s ∈ signs

namespace Orderly

variable {ms ms' : List (Mark α)} {s : String}

theorem operand (a : α) : Orderly [Mark.operand a] where
  chain := .singleton _
  begins := ⟨_, rfl, trivial⟩
  ends := ⟨_, rfl, trivial⟩
  signs := by simp

theorem meets (h : Orderly ms) (s : String) : ∀ m ∈ ms.getLast?, Mark.Meets m (.sign s) := by
  obtain ⟨m', hm', hends⟩ := h.ends
  intro m hm
  obtain rfl := Option.mem_unique hm hm'
  exact hends.meets s

theorem cons (h : Orderly ms) (hs : s = "(" ∨ s = "-") : Orderly (.sign s :: ms) where
  chain := by
    obtain ⟨m', hm', hbegins⟩ := h.begins
    refine List.isChain_cons.mpr ⟨fun m hm => ?_, h.chain⟩
    obtain rfl := Option.mem_unique hm hm'
    exact hbegins.meets s
  begins := ⟨_, rfl, hs⟩
  ends := by
    obtain ⟨m, hm, hends⟩ := h.ends
    exact ⟨m, by simp [List.getLast?_cons, Option.mem_def.mp hm], hends⟩
  signs := by
    intro s' hs'
    rcases List.mem_cons.mp hs' with hs' | hs'
    · obtain rfl := Mark.sign.inj hs'
      rcases hs with rfl | rfl <;> decide
    · exact h.signs s' hs'

theorem close (h : Orderly ms) : Orderly (ms ++ [.sign ")"]) where
  chain := by
    refine List.isChain_append.mpr ⟨h.chain, .singleton _, fun m hm _ hsign => ?_⟩
    obtain rfl := Option.some.inj hsign
    exact h.meets ")" m hm
  begins := by
    obtain ⟨m, hm, hbegins⟩ := h.begins
    exact ⟨m, by rw [List.head?_append, Option.mem_def.mp hm]; rfl, hbegins⟩
  ends := ⟨.sign ")", by simp, rfl⟩
  signs := by
    intro s hs
    rcases List.mem_append.mp hs with hs | hs
    · exact h.signs s hs
    · obtain rfl := Mark.sign.inj (List.mem_singleton.mp hs)
      decide

theorem join (h : Orderly ms) (h' : Orderly ms') (hs : s ∈ Calc.signs) :
    Orderly (ms ++ .sign s :: ms') where
  chain := by
    obtain ⟨m', hm', hbegins⟩ := h'.begins
    refine List.isChain_append.mpr ⟨h.chain, List.isChain_cons.mpr ⟨?_, h'.chain⟩, ?_⟩
    · intro m hm
      obtain rfl := Option.mem_unique hm hm'
      exact hbegins.meets s
    · intro m hm _ hsign
      obtain rfl := Option.some.inj hsign
      exact h.meets s m hm
  begins := by
    obtain ⟨m, hm, hbegins⟩ := h.begins
    exact ⟨m, by rw [List.head?_append, Option.mem_def.mp hm]; rfl, hbegins⟩
  ends := by
    obtain ⟨m, hm, hends⟩ := h'.ends
    exact ⟨m, by simp [List.getLast?_append, List.getLast?_cons, Option.mem_def.mp hm], hends⟩
  signs := by
    intro s' hs'
    rcases List.mem_append.mp hs' with hs' | hs'
    · exact h.signs s' hs'
    rcases List.mem_cons.mp hs' with hs' | hs'
    · obtain rfl := Mark.sign.inj hs'
      exact hs
    · exact h'.signs s' hs'

end Orderly

theorem Formula.orderly (e : Formula α t) : Orderly e.marks := by
  induction e with
  | operand a => exact .operand a
  | group e ih => exact ih.close.cons (.inl rfl)
  | bare e ih | factor e ih | term e ih => exact ih
  | negative e ih => exact ih.cons (.inr rfl)
  | power b e ihb ihe => exact ihb.join ihe (by decide)
  | product s l r ihl ihr | sum s l r ihl ihr => exact ihl.join ihr (by cases s <;> decide)

/-! ### Parentheses -/

/-- How many parentheses are open after a mark. -/
def Mark.open? (k : Nat) : Mark α → Option Nat
  | .operand _ => some k
  | .sign s =>
    if s = "(" then if k < nestingLimit then some (k + 1) else none
    else if s = ")" then if k = 0 then none else some (k - 1)
    else some k

/-- The marks open as many parentheses as they close, which nest so deep. -/
def Nests (ms : List (Mark α)) (depth : Nat) : Prop :=
  ∀ k ≤ nestingLimit, ms.foldlM Mark.open? k =
    if k + depth ≤ nestingLimit then some k else none

namespace Nests

variable {ms ms' : List (Mark α)} {d d' : Nat} {s : String}

theorem open?_sign (hs : s ≠ "(") (hs' : s ≠ ")") (k : Nat) :
    (Mark.sign s : Mark α).open? k = some k := by
  rw [Mark.open?, if_neg hs, if_neg hs']

theorem cons (h : Nests ms d) (hs : s ≠ "(") (hs' : s ≠ ")") : Nests (.sign s :: ms) d := by
  intro k hk
  rw [List.foldlM_cons, open?_sign hs hs']
  exact h k hk

theorem join (h : Nests ms d) (h' : Nests ms' d') (hs : s ≠ "(") (hs' : s ≠ ")") :
    Nests (ms ++ .sign s :: ms') (max d d') := by
  intro k hk
  have hright := h'.cons hs hs' k hk
  rw [List.foldlM_append, h k hk]
  split
  · change (Mark.sign s :: ms').foldlM Mark.open? k = _
    rw [hright]
    split <;> split <;> first | rfl | omega
  · rw [if_neg (by omega)]
    rfl

theorem group (h : Nests ms d) : Nests (.sign "(" :: (ms ++ [.sign ")"])) (d + 1) := by
  intro k hk
  rw [List.foldlM_cons, Mark.open?, if_pos rfl]
  split
  · next hlt =>
    have hinner := h (k + 1) hlt
    change (ms ++ [Mark.sign ")"]).foldlM Mark.open? (k + 1) = _
    rw [List.foldlM_append, hinner]
    split
    · next hle =>
      rw [if_pos (by omega)]
      rfl
    · next hle =>
      rw [if_neg (by omega)]
      rfl
  · next hlt =>
    rw [if_neg (by omega)]
    rfl

end Nests

/-- **A formula closes the parentheses that it opens.** -/
theorem Formula.nests (e : Formula α t) : Nests e.marks e.depth := by
  induction e with
  | operand a =>
    intro k hk
    rw [depth, if_pos (by omega)]
    rfl
  | group e ih => exact ih.group
  | bare e ih | factor e ih | term e ih => exact ih
  | negative e ih => exact ih.cons (by decide) (by decide)
  | power b e ihb ihe => exact ihb.join ihe (by decide) (by decide)
  | product s l r ihl ihr | sum s l r ihl ihr =>
    exact ihl.join ihr (by cases s <;> decide) (by cases s <;> decide)

/-! ### The text of a formula -/

/-- Spaces and tabs. -/
abbrev Gap := {cs : List Char // ∀ c ∈ cs, c = ' ' ∨ c = '\t'}

/-- What is written for a mark. -/
def Mark.chars (spell : α → List Char) : Mark α → List Char
  | .operand a => spell a
  | .sign s => s.toList

/-- Marks written one after the other, each after a gap. -/
def written (spell : α → List Char) (laid : List (Gap × Mark α)) : List Char :=
  laid.flatMap fun p => p.1.val ++ p.2.chars spell

/-! ### One lexeme -/

variable {fuel k : Nat} {opened : List Char} {fresh indented : Bool} {rest : List Char}

/-- The characters that no lexeme begins with. -/
def hidden : List Char := ['\n', ' ', '\t', '\x0c', '#', '\\']

/-- The signs that could be read on into another one. -/
def extensions : List Char := ['*', '/', '=', '>']

theorem lexFrom_word {c : Char} {cs left : List Char} {l : Lexeme} (hc : c ∉ hidden)
    (hf : (fresh && indented) = false) (h : word? (c :: cs) = some (some (l, left))) :
    lexFrom (fuel + 1) opened fresh indented (c :: cs) =
      (lexFrom fuel opened false false left).map (l :: ·) := by
  simp only [hidden, List.mem_cons, List.not_mem_nil, or_false, not_or] at hc
  obtain ⟨h1, h2, h3, h4, h5, h6⟩ := hc
  rw [lexFrom.eq_def]
  dsimp only
  rw [if_neg h1, if_neg (by simp [h2, h3]), if_neg h4, if_neg h5, if_neg h6,
    if_neg (by simp [hf]), h, Option.map_eq_bind]
  rfl

theorem lexFrom_operator {c : Char} {cs sign : List Char} (hc : c ∉ hidden)
    (hf : (fresh && indented) = false) (h : word? (c :: cs) = some none)
    (hsign : operators.find? (·.isPrefixOf (c :: cs)) = some sign) :
    lexFrom (fuel + 1) opened fresh indented (c :: cs) = (track? opened sign).bind fun opened =>
      (lexFrom fuel opened false false ((c :: cs).drop sign.length)).map
        (.operator (String.ofList sign) :: ·) := by
  simp only [hidden, List.mem_cons, List.not_mem_nil, or_false, not_or] at hc
  obtain ⟨h1, h2, h3, h4, h5, h6⟩ := hc
  rw [lexFrom.eq_def]
  dsimp only
  rw [if_neg h1, if_neg (by simp [h2, h3]), if_neg h4, if_neg h5, if_neg h6,
    if_neg (by simp [hf]), h]
  simp only [Option.bind_eq_bind, Option.bind_some, hsign, Option.map_eq_bind]
  rfl

/-- A sign is found where none of the longer ones stands. -/
theorem find?_operators {s : String} (hs : s ∈ signs)
    (hrest : s = "(" ∨ s = ")" ∨ ∀ c, rest.head? = some c → c ∉ extensions) :
    operators.find? (·.isPrefixOf (s.toList ++ rest)) = some s.toList := by
  simp only [signs, List.mem_cons, List.not_mem_nil, or_false] at hs
  rcases rest with _ | ⟨d, more⟩
  · rcases hs with rfl | rfl | rfl | rfl | rfl | rfl | rfl | rfl | rfl <;> rfl
  obtain rfl | rfl | hd := hrest
  · rfl
  · rfl
  · have hne : '*' ≠ d ∧ '/' ≠ d ∧ '=' ≠ d ∧ '>' ≠ d := by
      have h := hd d rfl
      simp only [extensions, List.mem_cons, List.not_mem_nil, or_false, not_or] at h
      exact ⟨Ne.symm h.1, Ne.symm h.2.1, Ne.symm h.2.2.1, Ne.symm h.2.2.2⟩
    obtain ⟨h1, h2, h3, h4⟩ := hne
    rcases hs with rfl | rfl | rfl | rfl | rfl | rfl | rfl | rfl | rfl <;>
      simp [operators, List.isPrefixOf, h1, h2, h3, h4]

theorem track?_eq {s : String} (hs : s ∈ signs) (k : Nat) :
    track? (List.replicate k ')') s.toList =
      ((Mark.sign s : Mark Numeral).open? k).map fun k => List.replicate k ')' := by
  simp only [signs, List.mem_cons, List.not_mem_nil, or_false] at hs
  rcases hs with rfl | rfl | rfl | rfl | rfl | rfl | rfl | rfl | rfl
  · have hopen : track? (List.replicate k ')') "(".toList =
        if (List.replicate k ')').length < nestingLimit then
          some (List.replicate (k + 1) ')') else none := rfl
    rw [hopen, Mark.open?, if_pos rfl, List.length_replicate]
    split <;> rfl
  · cases k <;> rfl
  all_goals rfl

/-- What stands behind a mark does not run together with it. -/
def Mark.Apart (rest : List Char) : Mark α → Prop
  | .operand _ => Delimits rest
  | .sign s => s ∈ signs ∧
      (s = "(" ∨ s = ")" ∨ ∀ c, rest.head? = some c → c ∉ extensions)

theorem not_hidden_of_ofNumber {c : Char} (hc : ofNumber c = true) : c ∉ hidden := by
  intro hmem
  simp only [hidden, List.mem_cons, List.not_mem_nil, or_false] at hmem
  rcases hmem with rfl | rfl | rfl | rfl | rfl | rfl <;> contradiction

theorem exists_sign {s : String} (hs : s ∈ signs) :
    ∃ c cs, s.toList = c :: cs ∧ c ∉ hidden ∧ c ∈ delimiters ∧
      ∀ rest, word? (c :: (cs ++ rest)) = some none := by
  simp only [signs, List.mem_cons, List.not_mem_nil, or_false] at hs
  rcases hs with rfl | rfl | rfl | rfl | rfl | rfl | rfl | rfl | rfl <;>
    exact ⟨_, _, rfl, by decide, by decide, fun _ => rfl⟩

/-- **One mark is one lexeme.** -/
theorem lexFrom_mark {m : Mark Numeral} (h : m.Apart rest) (hf : (fresh && indented) = false) :
    lexFrom (fuel + 1) (List.replicate k ')') fresh indented (m.chars Numeral.text ++ rest) =
      (m.open? k).bind fun k => (lexFrom fuel (List.replicate k ')') false false rest).map
        (Formula.lexeme Numeral.value m :: ·) := by
  cases m with
  | operand n =>
    obtain ⟨c, cs, htext⟩ := List.exists_cons_of_ne_nil n.ne_nil
    have hword := n.word?_append h
    rw [htext, List.cons_append] at hword
    have hc := not_hidden_of_ofNumber (n.ofNumber_of_mem (c := c) (by rw [htext]; simp))
    rw [Mark.chars, htext, List.cons_append, lexFrom_word hc hf hword]
    rfl
  | sign s =>
    obtain ⟨hs, hrest⟩ := h
    obtain ⟨c, cs, htext, hc, -, hword⟩ := exists_sign hs
    have hsign := find?_operators hs hrest
    rw [htext, List.cons_append] at hsign
    rw [Mark.chars, htext, List.cons_append, lexFrom_operator hc hf (hword rest) hsign, ← htext,
      track?_eq hs]
    have hdrop : (c :: (cs ++ rest)).drop s.toList.length = rest := by
      rw [htext, ← List.cons_append, List.drop_left]
    rw [hdrop, String.ofList_toList, Option.bind_map]
    rfl

/-! ### All lexemes -/

/-- The lexemes of marks, unless their parentheses do not match or nest too deep. -/
def lexed (k : Nat) (ms : List (Mark Numeral)) : Option (List Lexeme) :=
  (ms.foldlM Mark.open? k).bind fun k =>
    if k = 0 then some (ms.map (Formula.lexeme Numeral.value)) else none

theorem lexed_cons (k : Nat) (m : Mark Numeral) (ms : List (Mark Numeral)) :
    lexed k (m :: ms) = (m.open? k).bind fun k =>
      (lexed k ms).map (Formula.lexeme Numeral.value m :: ·) := by
  unfold lexed
  rw [List.foldlM_cons]
  cases m.open? k with
  | none => rfl
  | some k =>
    change (ms.foldlM Mark.open? k).bind _ = _
    rw [Option.bind_some]
    cases ms.foldlM Mark.open? k with
    | none => rfl
    | some k =>
      rw [Option.bind_some, Option.bind_some]
      split <;> rfl

theorem lexFrom_gap (fuel : Nat) (opened : List Char) (indented : Bool) (gap : Gap)
    (cs : List Char) : ∃ indented',
    lexFrom (fuel + gap.val.length) opened false indented (gap.val ++ cs) =
      lexFrom fuel opened false indented' cs := by
  obtain ⟨gap, hgap⟩ := gap
  dsimp only
  induction gap generalizing indented with
  | nil => exact ⟨indented, rfl⟩
  | cons c gap ih =>
    obtain ⟨hc, hgap⟩ := List.forall_mem_cons.mp hgap
    obtain ⟨indented', h⟩ := ih true hgap
    have hline : c ≠ '\n' := by rcases hc with rfl | rfl <;> decide
    refine ⟨indented', ?_⟩
    rw [List.length_cons, ← Nat.add_assoc, List.cons_append, lexFrom.eq_def]
    dsimp only
    rw [if_neg hline, if_pos (by simpa using hc)]
    exact h

theorem chars_ne_nil {m : Mark Numeral} (h : ∀ s, m = .sign s → s ∈ signs) :
    m.chars Numeral.text ≠ [] := by
  cases m with
  | operand n => exact n.ne_nil
  | sign s =>
    obtain ⟨c, cs, htext, -⟩ := exists_sign (h s rfl)
    rw [Mark.chars, htext]
    exact List.cons_ne_nil c cs

theorem written_cons (spell : α → List Char) (gap : Gap) (m : Mark α)
    (laid : List (Gap × Mark α)) :
    written spell ((gap, m) :: laid) = gap.val ++ (m.chars spell ++ written spell laid) := by
  rw [written, List.flatMap_cons, List.append_assoc]
  rfl

/-- What is written before a sign begins with a space or with the sign. -/
theorem delimits_sign (spell : α → List Char) (gap : Gap) {s : String} (hs : s ∈ signs)
    (laid : List (Gap × Mark α)) : Delimits (written spell ((gap, .sign s) :: laid)) := by
  intro c hc
  obtain ⟨d, cs, htext, -, hd, -⟩ := exists_sign hs
  obtain ⟨gap, hgap⟩ := gap
  rw [written_cons, Mark.chars, htext] at hc
  cases gap with
  | nil =>
    rw [← Option.some.inj hc]
    exact hd
  | cons b gap =>
    obtain rfl : b = c := Option.some.inj hc
    obtain rfl | rfl := hgap b (by simp) <;> decide

/-- What is written next begins with a space or with the next mark. -/
theorem head_written {c : Char} {gap : Gap} {m : Mark Numeral} {laid : List (Gap × Mark Numeral)}
    (hm : ∀ s, m = .sign s → s ∈ signs)
    (hc : (written Numeral.text ((gap, m) :: laid)).head? = some c) :
    c = ' ' ∨ c = '\t' ∨ (m.chars Numeral.text).head? = some c := by
  rw [written_cons] at hc
  obtain ⟨gap, hgap⟩ := gap
  cases gap with
  | nil =>
    rw [List.nil_append, List.head?_append_of_ne_nil _ (chars_ne_nil hm)] at hc
    exact .inr (.inr hc)
  | cons d gap =>
    obtain rfl : d = c := Option.some.inj hc
    exact (hgap d (by simp)).imp_right .inl

/-- The text behind a mark does not run together with it. -/
theorem apart_written {m : Mark Numeral} {laid : List (Gap × Mark Numeral)}
    (hchain : (m :: laid.map Prod.snd).IsChain Mark.Meets)
    (hsigns : ∀ s, .sign s ∈ m :: laid.map Prod.snd → s ∈ signs) :
    m.Apart (written Numeral.text laid) := by
  have hs (s : String) (h : m = .sign s) : s ∈ signs := hsigns s (by simp [h])
  cases laid with
  | nil =>
    cases m with
    | operand n => intro c hc; contradiction
    | sign s => exact ⟨hs s rfl, .inr (.inr fun c hc => by contradiction)⟩
  | cons p laid =>
    obtain ⟨gap, m'⟩ := p
    have hs' (s : String) (h : m' = .sign s) : s ∈ signs := hsigns s (by simp [h])
    have hmeets : Mark.Meets m m' := (List.isChain_cons_cons.mp hchain).1
    cases m with
    | operand n =>
      cases m' with
      | operand n' => exact hmeets.elim
      | sign s => exact delimits_sign Numeral.text gap (hs' s rfl) laid
    | sign s =>
      refine ⟨hs s rfl, or_iff_not_imp_left.mpr fun hopen => or_iff_not_imp_left.mpr fun hclose =>
        fun c hc => ?_⟩
      obtain rfl | rfl | hc := head_written hs' hc
      · decide
      · decide
      · cases m' with
        | operand n' =>
          have hnumber := n'.ofNumber_of_mem (List.mem_of_head? hc)
          intro hmem
          simp only [extensions, List.mem_cons, List.not_mem_nil, or_false] at hmem
          rcases hmem with rfl | rfl | rfl | rfl <;> contradiction
        | sign s' =>
          obtain rfl | rfl := hmeets.resolve_left hclose
          · obtain rfl : '(' = c := Option.some.inj hc
            decide
          · obtain rfl : '-' = c := Option.some.inj hc
            decide

/-- The first mark and those behind it are split into their lexemes. -/
theorem lexFrom_cons {m : Mark Numeral} {laid : List (Gap × Mark Numeral)}
    (hf : (fresh && indented) = false) (hchain : (m :: laid.map Prod.snd).IsChain Mark.Meets)
    (hsigns : ∀ s, .sign s ∈ m :: laid.map Prod.snd → s ∈ signs)
    (hlaid : ∀ k, lexFrom fuel (List.replicate k ')') false false (written Numeral.text laid) =
      lexed k (laid.map Prod.snd)) :
    lexFrom (fuel + 1) (List.replicate k ')') fresh indented
      (m.chars Numeral.text ++ written Numeral.text laid) = lexed k (m :: laid.map Prod.snd) := by
  rw [lexFrom_mark (apart_written hchain hsigns) hf, lexed_cons]
  congr 1
  funext k
  rw [hlaid]

/-- Marks are split into their lexemes. -/
theorem lexFrom_written {laid : List (Gap × Mark Numeral)}
    (hchain : (laid.map Prod.snd).IsChain Mark.Meets)
    (hsigns : ∀ s, .sign s ∈ laid.map Prod.snd → s ∈ signs)
    (hfuel : (written Numeral.text laid).length ≤ fuel) :
    lexFrom fuel (List.replicate k ')') false indented (written Numeral.text laid) =
      lexed k (laid.map Prod.snd) := by
  induction laid generalizing fuel k indented with
  | nil =>
    rw [written, List.flatMap_nil, lexFrom.eq_def]
    cases k <;> rfl
  | cons p laid ih =>
    obtain ⟨gap, m⟩ := p
    rw [List.map_cons] at hchain hsigns
    have hs (s : String) (h : m = .sign s) : s ∈ signs := hsigns s (by simp [h])
    have hpos := List.length_pos_iff.mpr (chars_ne_nil hs)
    rw [written_cons, List.length_append, List.length_append] at hfuel
    obtain ⟨fuel, rfl⟩ : ∃ n, fuel = n + 1 + gap.val.length :=
      ⟨fuel - 1 - gap.val.length, by omega⟩
    obtain ⟨indented', hgap⟩ := lexFrom_gap (fuel + 1) (List.replicate k ')') indented gap
      (m.chars Numeral.text ++ written Numeral.text laid)
    rw [written_cons, hgap]
    exact lexFrom_cons rfl hchain hsigns fun k =>
      ih hchain.tail (fun s h => hsigns s (List.mem_cons_of_mem _ h)) (by omega)

/-! ### The whole text -/

/-- The characters that signs consist of. -/
def ofSign : List Char := ['+', '-', '*', '/', '%', '(', ')']

theorem mem_chars {m : Mark Numeral} (hm : ∀ s, m = .sign s → s ∈ signs) {c : Char}
    (hc : c ∈ m.chars Numeral.text) : ofNumber c = true ∨ c ∈ ofSign := by
  cases m with
  | operand n => exact .inl (n.ofNumber_of_mem hc)
  | sign s =>
    have hall : ∀ s ∈ signs, ∀ c ∈ s.toList, c ∈ ofSign := by simp [signs, ofSign]
    exact .inr (hall s (hm s rfl) c hc)

theorem ofNumber_bounds {c : Char} (hc : ofNumber c = true) : 43 ≤ c.toNat ∧ c.toNat ≤ 122 := by
  simp only [ofNumber, Char.isAlphanum, Char.isAlpha, Char.isUpper, Char.isLower, Char.isDigit,
    Bool.or_eq_true, Bool.and_eq_true, decide_eq_true_eq, List.contains_eq_mem, List.mem_cons,
    List.not_mem_nil, or_false, UInt32.le_iff_toNat_le, ge_iff_le] at hc
  rcases hc with ((⟨h, h'⟩ | ⟨h, h'⟩) | ⟨h, h'⟩) | rfl | rfl | rfl | rfl
  · exact ⟨le_trans (by decide) h, le_trans h' (by decide)⟩
  · exact ⟨le_trans (by decide) h, le_trans h' (by decide)⟩
  · exact ⟨le_trans (by decide) h, le_trans h' (by decide)⟩
  all_goals decide

theorem isBlank_ofNumber {c : Char} (hc : ofNumber c = true) : Text.isBlank c = false := by
  obtain ⟨hlow, hhigh⟩ := ofNumber_bounds hc
  rw [Text.isBlank, if_pos (by omega)]
  simp
  omega

theorem isBlank_chars {m : Mark Numeral} (hm : ∀ s, m = .sign s → s ∈ signs) {c : Char}
    (hc : c ∈ m.chars Numeral.text) : Text.isBlank c = false := by
  obtain hc | hc := mem_chars hm hc
  · exact isBlank_ofNumber hc
  · have hall : ∀ c ∈ ofSign, Text.isBlank c = false := by simp [ofSign, Text.isBlank]
    exact hall c hc

theorem isBlank_gap (gap : Gap) : ∀ c ∈ gap.val, Text.isBlank c = true := by
  intro c hc
  obtain rfl | rfl := gap.property c hc <;> decide

theorem unifyLineEnds_eq {cs : List Char} (h : '\x0d' ∉ cs) : unifyLineEnds cs = cs := by
  fun_induction unifyLineEnds cs with
  | case1 cs ih => exact absurd (by simp) h
  | case2 cs hne ih => exact absurd (by simp) h
  | case3 c cs hne hc ih => rw [ih fun hmem => h (List.mem_cons_of_mem _ hmem)]
  | case4 => rfl

theorem dropWhile_isBlank {front core : List Char} (hfront : ∀ c ∈ front, Text.isBlank c = true)
    (hhead : ∃ c ∈ core.head?, Text.isBlank c = false) :
    (front ++ core).dropWhile Text.isBlank = core := by
  obtain ⟨c, hc, hblank⟩ := hhead
  obtain ⟨more, rfl⟩ := List.head?_eq_some_iff.mp hc
  rw [List.dropWhile_append_of_pos hfront, List.dropWhile_cons_of_neg (by simp [hblank])]

theorem trim_eq {front core back : List Char} (hfront : ∀ c ∈ front, Text.isBlank c = true)
    (hback : ∀ c ∈ back, Text.isBlank c = true)
    (hhead : ∃ c ∈ core.head?, Text.isBlank c = false)
    (hlast : ∃ c ∈ core.getLast?, Text.isBlank c = false) :
    Text.trim (front ++ core ++ back) = core := by
  have hhead' : ∃ c ∈ (core ++ back).head?, Text.isBlank c = false := by
    obtain ⟨c, hc, hblank⟩ := hhead
    exact ⟨c, by rw [List.head?_append, Option.mem_def.mp hc]; rfl, hblank⟩
  have hlast' : ∃ c ∈ core.reverse.head?, Text.isBlank c = false := by
    rwa [List.head?_reverse]
  rw [Text.trim, List.append_assoc, dropWhile_isBlank hfront hhead', List.reverse_append,
    dropWhile_isBlank (by simpa using hback) hlast', List.reverse_reverse]

/-- A text of marks ends with the last of them. -/
theorem getLast?_written (laid : List (Gap × Mark Numeral)) (hne : laid ≠ [])
    (hsigns : ∀ s, .sign s ∈ laid.map Prod.snd → s ∈ signs) :
    ∃ c ∈ (written Numeral.text laid).getLast?, Text.isBlank c = false := by
  obtain ⟨before, ⟨gap, m⟩, rfl⟩ := (List.eq_nil_or_concat' laid).resolve_left hne
  have hm (s : String) (h : m = .sign s) : s ∈ signs := hsigns s (by simp [h])
  have hlast : written Numeral.text (before ++ [(gap, m)]) =
      written Numeral.text before ++ gap.val ++ m.chars Numeral.text := by
    simp [written]
  have hne := chars_ne_nil hm
  refine ⟨(m.chars Numeral.text).getLast hne, ?_, isBlank_chars hm (List.getLast_mem hne)⟩
  rw [hlast, List.getLast?_append_of_ne_nil _ hne, List.getLast?_eq_some_getLast hne]
  rfl

/-- The text of a formula is trimmed of the gaps at its ends. -/
theorem trim_written {gap tail : Gap} {m : Mark Numeral} {laid : List (Gap × Mark Numeral)}
    (hsigns : ∀ s, .sign s ∈ m :: laid.map Prod.snd → s ∈ signs) :
    Text.trim (written Numeral.text ((gap, m) :: laid) ++ tail.val) =
      m.chars Numeral.text ++ written Numeral.text laid := by
  have hm (s : String) (h : m = .sign s) : s ∈ signs := hsigns s (by simp [h])
  rw [written_cons]
  refine trim_eq (isBlank_gap gap) (isBlank_gap tail) ?_ ?_
  · obtain ⟨c, cs, hc⟩ := List.exists_cons_of_ne_nil (chars_ne_nil hm)
    exact ⟨c, by rw [hc]; rfl, isBlank_chars hm (by rw [hc]; simp)⟩
  · have hlast := getLast?_written ((⟨[], by simp⟩, m) :: laid) (by simp) hsigns
    rwa [written_cons] at hlast

theorem return_notMem_written (laid : List (Gap × Mark Numeral))
    (hsigns : ∀ s, .sign s ∈ laid.map Prod.snd → s ∈ signs) :
    '\x0d' ∉ written Numeral.text laid := by
  intro hmem
  obtain ⟨⟨gap, m⟩, hp, hmem⟩ := List.mem_flatMap.mp hmem
  have hm (s : String) (h : m = .sign s) : s ∈ signs :=
    hsigns s (List.mem_map.mpr ⟨(gap, m), hp, h⟩)
  obtain hmem | hmem := List.mem_append.mp hmem
  · obtain h | h := gap.property _ hmem <;> contradiction
  · obtain h | h := mem_chars hm hmem
    · contradiction
    · revert h
      decide

/-- **A formula is split into its lexemes**, unless its parentheses nest too deep. -/
theorem lexemes?_written {e : Formula Numeral t} {m : Mark Numeral}
    {laid : List (Gap × Mark Numeral)} (he : e.marks = m :: laid.map Prod.snd) :
    lexemes? (m.chars Numeral.text ++ written Numeral.text laid) =
      if e.depth ≤ nestingLimit then some (e.lexemes Numeral.value) else none := by
  have horderly := e.orderly
  rw [he] at horderly
  obtain ⟨hchain, -, -, hsigns⟩ := horderly
  have hreturn := return_notMem_written ((⟨[], by simp⟩, m) :: laid) hsigns
  rw [written_cons, List.nil_append] at hreturn
  have hlex : lexFrom ((m.chars Numeral.text ++ written Numeral.text laid).length + 1)
      (List.replicate 0 ')') true false (m.chars Numeral.text ++ written Numeral.text laid) =
        lexed 0 (m :: laid.map Prod.snd) :=
    lexFrom_cons rfl hchain hsigns fun k =>
      lexFrom_written hchain.tail (fun s h => hsigns s (List.mem_cons_of_mem _ h)) (by simp)
  have hnests := e.nests 0 (Nat.zero_le _)
  rw [Nat.zero_add] at hnests
  rw [lexemes?, unifyLineEnds_eq hreturn]
  refine hlex.trans ?_
  rw [← he, lexed, hnests]
  split <;> rfl

theorem length_le_written (laid : List (Gap × Mark Numeral))
    (hsigns : ∀ s, .sign s ∈ laid.map Prod.snd → s ∈ signs) :
    laid.length ≤ (written Numeral.text laid).length := by
  induction laid with
  | nil => exact Nat.zero_le _
  | cons p laid ih =>
    obtain ⟨gap, m⟩ := p
    rw [List.map_cons] at hsigns
    have hpos := List.length_pos_iff.mpr (chars_ne_nil fun s (h : m = .sign s) =>
      hsigns s (by simp [h]))
    have hlaid := ih fun s h => hsigns s (List.mem_cons_of_mem _ h)
    rw [written_cons, List.length_append, List.length_append, List.length_cons]
    omega

/-- **A formula is parsed as written**, unless its parentheses nest too deep. -/
theorem parse?_written {e : Formula Numeral .sum} {laid : List (Gap × Mark Numeral)}
    (he : e.marks = laid.map Prod.snd) (tail : Gap) :
    Expr.parse? (Text.trim (written Numeral.text laid ++ tail.val)) =
      if e.depth ≤ nestingLimit then some (e.expr Numeral.value) else none := by
  cases laid with
  | nil => 
    obtain ⟨m, hm, -⟩ := e.orderly.begins
    rw [he] at hm
    contradiction
  | cons p laid =>
    obtain ⟨gap, m⟩ := p
    have hsigns := e.orderly.signs
    rw [he] at hsigns
    rw [trim_written hsigns, Expr.parse?, lexemes?_written he]
    split
    · have hlength := length_le_written ((⟨[], by simp⟩, m) :: laid) hsigns
      rw [written_cons, List.nil_append] at hlength
      have hmarks : (e.lexemes Numeral.value).length = (laid.length + 1) := by
        rw [Formula.lexemes, List.length_map, he, List.map_cons, List.length_cons, List.length_map]
      have hparse := e.expressionList_lexemes Numeral.value
        (40 * ((m.chars Numeral.text ++ written Numeral.text laid).length + 2))
        (by rw [List.length_cons] at hlength; omega)
      change (expressionList _ _).bind _ = _
      rw [hparse]
      rfl
    · rfl

end CaseDict.Calc
