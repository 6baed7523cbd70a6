import CaseDict.Proofs.Legible
import CaseDict.Proofs.Spelling
import Mathlib.Data.List.DropRight
/-! # Tokens written and lexed again

The tokens of a text, written with single spaces between them but none inside round and square
brackets, are lexed to the same symbols, unless a number among them is infinite, which is written as
a word, or a word that leaves a round bracket open stands before a closing one, which then belongs to
the word (`relexes_iff`). -/

namespace CaseDict

open Lexer

namespace Lexer

variable {c : Char} {cs rest body : List Char} {line : Int}

/-- The text is at its end, or goes on as written tokens do behind another. -/
def Parted (rest : List Char) : Prop := ∀ c ∈ rest.head?, c = ' ' ∨ c = ')' ∨ c = ']'

theorem Parted.stops (h : Parted rest) : Stops 0 rest := by
  intro c hc
  rcases h c hc with rfl | rfl | rfl
  · exact .inl (by decide)
  · exact .inr ⟨.inl rfl, rfl⟩
  · exact .inl (by decide)

/-- A name ends before what does not go on with it. -/
theorem span_append {p : Char → Bool} {name r : List Char} (hname : ∀ c ∈ name, p c = true)
    (hr : ∀ c ∈ r.head?, p c = false) :
    (name ++ r).takeWhile p = name ∧ (name ++ r).dropWhile p = r := by
  rw [List.takeWhile_append_of_pos hname, List.dropWhile_append_of_pos hname]
  cases r with
  | nil => simp
  | cons c r =>
    have hc := hr c rfl
    simp [hc]

/-! ### References -/

theorem splitBraced_of_keepsOpen {depth : Nat} (h : KeepsOpen depth body)
    (hclosed : body.count '}' = depth + body.count '{') (rest : List Char) :
    splitBraced depth (body ++ '}' :: rest) = .closed body rest := by
  induction body generalizing depth with
  | nil =>
    obtain rfl : depth = 0 := by simpa using hclosed.symm
    simp [splitBraced]
  | cons c body ih =>
    have hinner {n : Nat} (hc : n + [c].count '}' = depth + [c].count '{') :
        splitBraced n (body ++ '}' :: rest) = .closed body rest := by
      have hcount (a : Char) : (c :: body).count a = [c].count a + body.count a := by
        rw [← List.singleton_append, List.count_append]
      refine ih ⟨fun hn => h.unbroken (.tail c hn), fun before hbefore => ?_⟩ ?_
      · have hopen := h.opened (c :: before) (List.cons_prefix_cons.mpr ⟨rfl, hbefore⟩)
        rw [← List.singleton_append, List.count_append, List.count_append] at hopen
        omega
      · rw [hcount, hcount] at hclosed
        omega
    rw [List.cons_append, splitBraced]
    split
    · next hc =>
      subst hc
      rw [hinner (n := depth + 1) (by simp)]
      rfl
    split
    · next hc =>
      subst hc
      have hdepth : 1 ≤ depth := by simpa using h.opened ['}'] ⟨body, rfl⟩
      rw [if_neg (by omega), hinner (n := depth - 1) (by simp; omega)]
      rfl
    · next h1 h2 =>
      have hline : c ≠ '\n' := by
        rintro rfl
        exact h.unbroken (List.mem_cons_self ..)
      rw [if_neg hline, hinner (n := depth) (by simp [h1, h2])]
      rfl

theorem count_of_blank {a : Char} (ha : Text.isBlank a = false)
    (h : ∀ c ∈ cs, Text.isBlank c = true) : cs.count a = 0 :=
  List.count_eq_zero.mpr fun hmem => by simpa [ha] using h a hmem

theorem trim_spec (cs : List Char) : ∃ before after, cs = before ++ Text.trim cs ++ after ∧
    (∀ c ∈ before, Text.isBlank c = true) ∧ ∀ c ∈ after, Text.isBlank c = true := by
  refine ⟨cs.takeWhile Text.isBlank, ((cs.dropWhile Text.isBlank).reverse.takeWhile
    Text.isBlank).reverse, ?_, fun c hc => List.mem_takeWhile_imp hc, fun c hc =>
      List.mem_takeWhile_imp (List.mem_reverse.mp hc)⟩
  rw [Text.trim, List.append_assoc, ← List.reverse_append, List.takeWhile_append_dropWhile,
    List.reverse_reverse, List.takeWhile_append_dropWhile]

/-- What has been trimmed has no white space at its ends. -/
theorem trim_trim (cs : List Char) : Text.trim (Text.trim cs) = Text.trim cs := by
  have htrim (cs : List Char) :
      Text.trim cs = (cs.dropWhile Text.isBlank).rdropWhile Text.isBlank := rfl
  have hdrop : (Text.trim cs).dropWhile Text.isBlank = Text.trim cs := by
    have hprefix : Text.trim cs <+: cs.dropWhile Text.isBlank :=
      List.rdropWhile_prefix Text.isBlank _
    cases ht : Text.trim cs with
    | nil => rfl
    | cons c inner =>
      rw [ht] at hprefix
      obtain ⟨more, hmore⟩ := hprefix
      have hc := List.head?_dropWhile_not Text.isBlank cs
      rw [← hmore] at hc
      exact List.dropWhile_cons_of_neg (by simpa using hc)
  rw [htrim (Text.trim cs), hdrop, htrim, List.rdropWhile_idempotent]

theorem KeepsOpen.trim (h : KeepsOpen 0 body) (hclosed : body.count '}' = body.count '{') :
    KeepsOpen 0 (Text.trim body) ∧ (Text.trim body).count '}' = (Text.trim body).count '{' := by
  obtain ⟨before, after, hbody, hbefore, hafter⟩ := trim_spec body
  have hopen : Text.isBlank '{' = false := by decide
  have hclose : Text.isBlank '}' = false := by decide
  refine ⟨⟨fun hn => h.unbroken ?_, fun inner hinner => ?_⟩, ?_⟩
  · rw [hbody]
    simp [hn]
  · have hprefix : before ++ inner <+: body := by
      rw [hbody, List.append_assoc]
      exact List.prefix_append_right_inj before |>.mpr (hinner.trans (List.prefix_append ..))
    have hcount := h.opened _ hprefix
    rw [List.count_append, List.count_append, count_of_blank hopen hbefore,
      count_of_blank hclose hbefore] at hcount
    simpa using hcount
  · rw [hbody] at hclosed
    simpa [List.count_append, count_of_blank hopen hbefore, count_of_blank hclose hbefore,
      count_of_blank hopen hafter, count_of_blank hclose hafter] using hclosed

/-- A name as the lexer hands it out: it needs no braces, or it has been read between them. -/
theorem name_of_spells {source : List Char} {name : String} (h : Spells source (.reference name)) :
    name.toList ≠ [] ∧ ((∀ c ∈ name.toList, isReferenceChar c = true) ∨
      KeepsOpen 0 name.toList ∧ name.toList.count '}' = name.toList.count '{' ∧
        Text.trim name.toList = name.toList) := by
  generalize hs : Symbol.reference name = s at h
  cases h with
  | word _ _ _ hs' =>
    subst hs
    unfold classify at hs'
    split at hs' <;> cases hs'
  | @single c _ hs' =>
    subst hs
    unfold single? at hs'
    split at hs' <;> cases hs'
  | quoted | directive => contradiction
  | reference hne hname =>
    obtain rfl := Symbol.reference.inj hs
    rw [String.toList_ofList]
    exact ⟨hne, .inl hname⟩
  | braced hopen hclosed hne =>
    obtain rfl := Symbol.reference.inj hs
    rw [String.toList_ofList]
    obtain ⟨htrim, hcount⟩ := hopen.trim hclosed
    exact ⟨hne, .inr ⟨htrim, hcount, trim_trim _⟩⟩

theorem isPlainReference_iff : Symbol.isPlainReference c = isReferenceChar c := by
  rw [Symbol.isPlainReference, isReferenceChar, Text.isWord]
  simp only [List.contains_eq_any_beq]
  simp [Bool.or_assoc]

theorem nextStep_reference {name : String} (hne : name.toList ≠ [])
    (hname : (∀ c ∈ name.toList, isReferenceChar c = true) ∨ KeepsOpen 0 name.toList ∧
      name.toList.count '}' = name.toList.count '{' ∧ Text.trim name.toList = name.toList)
    (hr : Parted rest) (line : Int) : nextStep line ((Symbol.reference name).text.toList ++ rest) =
      .ok (some ⟨⟨.reference name, line⟩, line, rest⟩) := by
  have hreference (cs : List Char) (h : reference line cs =
      .ok ⟨⟨.reference name, line⟩, line, rest⟩) : nextStep line ('$' :: cs) =
        .ok (some ⟨⟨.reference name, line⟩, line, rest⟩) := by
    rw [nextStep_of_not_startsGap (by rfl), lexeme, if_neg (by decide), if_pos rfl, h]
    rfl
  unfold Symbol.text
  dsimp only
  split
  · next hplain =>
    have hall : ∀ c ∈ name.toList, isReferenceChar c = true := by
      simpa [isPlainReference_iff] using hplain
    obtain ⟨htake, hdrop⟩ := span_append hall (r := rest) fun c hc => by
      rcases hr c hc with rfl | rfl | rfl <;> decide
    have hbrace (ds : List Char) : name.toList ++ rest ≠ '{' :: ds := by
      obtain ⟨c, cs, hcs⟩ := List.exists_cons_of_ne_nil hne
      rw [hcs] at hall ⊢
      rintro heq
      obtain ⟨rfl, -⟩ := List.cons.inj heq
      exact absurd (hall '{' (List.mem_cons_self ..)) (by decide)
    have hread : reference line (name.toList ++ rest) =
        .ok ⟨⟨.reference name, line⟩, line, rest⟩ := by
      rw [reference.eq_2 _ _ fun ds hds => hbrace ds hds, htake, hdrop]
      split
      · next h => exact absurd h hne
      · rw [String.ofList_toList]
    simpa using hreference _ hread
  · next hplain =>
    have hname := hname.resolve_left fun hall => hplain (by simpa [isPlainReference_iff] using hall)
    obtain ⟨hopen, hclosed, htrim⟩ := hname
    have hread : reference line ('{' :: (name.toList ++ '}' :: rest)) =
        .ok ⟨⟨.reference name, line⟩, line, rest⟩ := by
      rw [reference, splitBraced_of_keepsOpen hopen (by omega)]
      dsimp only
      rw [htrim]
      split
      · next h => exact absurd h hne
      · rw [String.ofList_toList]
    simpa using hreference _ hread

/-! ### Directives -/

theorem directive_of_spells {source : List Char} {name : String}
    (h : Spells source (.directive name)) :
    name.toList ≠ [] ∧ ∀ c ∈ name.toList, Text.isWord c = true := by
  generalize hs : Symbol.directive name = s at h
  cases h with
  | word _ _ _ hs' =>
    subst hs
    unfold classify at hs'
    split at hs' <;> cases hs'
  | @single c _ hs' =>
    subst hs
    unfold single? at hs'
    split at hs' <;> cases hs'
  | quoted | reference | braced => contradiction
  | directive hne hname =>
    obtain rfl := Symbol.directive.inj hs
    rw [String.toList_ofList]
    exact ⟨hne, hname⟩

theorem nextStep_directive {name : String} (hne : name.toList ≠ [])
    (hname : ∀ c ∈ name.toList, Text.isWord c = true) (hr : Parted rest) (line : Int) :
    nextStep line ((Symbol.directive name).text.toList ++ rest) =
      .ok (some ⟨⟨.directive name, line⟩, line, rest⟩) := by
  obtain ⟨htake, hdrop⟩ := span_append hname (r := rest) fun c hc => by
    rcases hr c hc with rfl | rfl | rfl <;> decide
  have hread : directive line (name.toList ++ rest) =
      .ok ⟨⟨.directive name, line⟩, line, rest⟩ := by
    rw [directive, htake, hdrop]
    split
    · next h => exact absurd h hne
    · rw [String.ofList_toList]
  have htext : (Symbol.directive name).text.toList ++ rest = '#' :: (name.toList ++ rest) := by
    simp [Symbol.text]
  rw [htext, nextStep_of_not_startsGap (by rfl), lexeme, if_neg (by decide), if_neg (by decide),
    if_pos rfl, hread]
  rfl

/-! ### What is read back as something else -/

theorem isWord_infinite {w : String} (hw : w = "nan" ∨ w = "inf" ∨ w = "-inf") :
    IsWord w ∧ IsBalanced w := by
  rw [isWord_iff]
  rcases hw with rfl | rfl | rfl
  · exact ⟨⟨'n', ['a', 'n'], rfl, by decide⟩, rfl⟩
  · exact ⟨⟨'i', ['n', 'f'], rfl, by decide⟩, rfl⟩
  · exact ⟨⟨'-', ['i', 'n', 'f'], rfl, by decide⟩, rfl⟩

/-- What is not a finite number is written as a word. -/
theorem nextStep_infinite {x : Float} (hx : x.isFinite = false) (hr : Parted rest) (line : Int) :
    ∃ w, nextStep line ((Symbol.number (.float x)).text.toList ++ rest) =
      .ok (some ⟨⟨.word w, line⟩, line, rest⟩) := by
  have hnone : Number.dyadic? x = none := by
    cases hd : Number.dyadic? x with
    | none => rfl
    | some d => exact absurd ((Number.dyadic?_bounds hd).1) (by simp [hx])
  have htext : (Symbol.number (.float x)).text = "nan" ∨ (Symbol.number (.float x)).text = "inf" ∨
      (Symbol.number (.float x)).text = "-inf" := by
    change Number.layout.write x = _ ∨ Number.layout.write x = _ ∨ Number.layout.write x = _
    rw [Number.Layout.write, hnone]
    dsimp only
    split
    · exact .inl rfl
    · split
      · exact .inr (.inr rfl)
      · exact .inr (.inl rfl)
  obtain ⟨hword, hbalanced⟩ := isWord_infinite htext
  exact ⟨_, nextStep_isWord hword fun a ha =>
    (hr.stops a ha).imp_right (And.imp_right fun _ => hbalanced)⟩

/-- A word that leaves a round bracket open takes in the one that closes it. -/
theorem nextStep_unbalanced {w : String} (hw : IsWord w) (hb : ¬ IsBalanced w) {s : Step}
    (h : nextStep line (w.toList ++ ')' :: rest) = .ok (some s)) : s.token.symbol ≠ .word w := by
  obtain ⟨c, cs, hchars, hgap, hmark, hsplit, -⟩ := isWord_iff.mp hw
  have hdepth : cs.foldl deeper 0 ≠ 0 := by
    intro hzero
    have hcount := foldl_deeper_add_count hsplit
    have hround : c ≠ '(' ∧ c ≠ ')' := by constructor <;> rintro rfl <;> revert hmark <;> decide
    refine hb ?_
    rw [IsBalanced, hchars, List.count_cons_of_ne hround.1, List.count_cons_of_ne hround.2]
    omega
  -- the word goes on with the bracket, and with what follows it
  obtain ⟨more, hmore⟩ : ∃ more, (splitWord 0 (cs ++ ')' :: rest)).1 = cs ++ ')' :: more := by
    rw [splitWord_onward hsplit (by simp), splitWord_cons, if_neg]
    · exact ⟨_, rfl⟩
    · simp [endsWord, hdepth]
      decide
  have hgap' : startsGap c (cs ++ ')' :: rest) = false := by
    cases cs with
    | nil => simpa [startsGap] using hgap
    | cons a cs => simpa [startsGap] using hgap
  rw [hchars, List.cons_append, nextStep_of_not_startsGap hgap', lexeme_word hmark, word] at h
  intro hs
  dsimp only at h
  rw [hmore] at h
  cases hk : classify (c :: (cs ++ ')' :: more)) with
  | error f =>
    rw [hk] at h
    cases h
  | ok k =>
    rw [hk] at h
    cases h
    obtain rfl : k = .word w := hs
    have hlong := congrArg List.length (congrArg String.toList (classify_eq_word hk).2)
    rw [String.toList_ofList, hchars] at hlong
    simp at hlong

/-! ### Whole texts -/

/-- The text is lexed to its end, to these symbols. -/
def LexesAt (line : Int) (cs : List Char) (ss : List Symbol) : Prop :=
  (lex line cs).fault = none ∧ (lex line cs).tokens.map Token.symbol = ss

theorem lexesAt_cons {t : Token} {line' : Int} {s : Symbol} {ss : List Symbol}
    (h : nextStep line cs = .ok (some ⟨t, line', rest⟩)) :
    LexesAt line cs (s :: ss) ↔ t.symbol = s ∧ LexesAt line' rest ss := by
  rw [LexesAt, lex_of_nextStep h, LexesAt, List.map_cons, List.cons.injEq]
  exact and_left_comm

end Lexer

/-- The tokens are read back after they were written: no number among them is infinite, and no word
that leaves a round bracket open stands before a closing one. -/
structure Token.AllRespelled (ts : List Token) : Prop where
  finite : ∀ t ∈ ts, ∀ x, t.symbol = .number (.float x) → x.isFinite = true
  closed : ∀ before w after,
    ts.map Token.symbol = before ++ .word w :: .closer .round :: after → IsBalanced w

theorem Token.allRespelled_nil : AllRespelled [] :=
  ⟨List.forall_mem_nil _, fun before w after h => by simp at h⟩

theorem Token.allRespelled_cons {t : Token} {ts : List Token} : AllRespelled (t :: ts) ↔
    ((∀ x, t.symbol = .number (.float x) → x.isFinite = true) ∧
      ∀ w, t.symbol = .word w → (∃ u ∈ ts.head?, u.symbol = .closer .round) → IsBalanced w) ∧
        AllRespelled ts := by
  constructor
  · rintro ⟨hfinite, hclosed⟩
    obtain ⟨ht, hts⟩ := List.forall_mem_cons.mp hfinite
    refine ⟨⟨ht, fun w hw hnext => ?_⟩, hts, fun before w after h => ?_⟩
    · obtain ⟨u, hu, hround⟩ := hnext
      obtain ⟨us, rfl⟩ := List.head?_eq_some_iff.mp hu
      exact hclosed [] w (us.map Token.symbol) (by simp [hw, hround])
    · exact hclosed (t.symbol :: before) w after (by simp [h])
  · rintro ⟨⟨ht, hw⟩, hts, hclosed⟩
    refine ⟨List.forall_mem_cons.mpr ⟨ht, hts⟩, fun before w after h => ?_⟩
    cases before with
    | nil =>
      obtain ⟨hword, hnext⟩ := List.cons.inj h
      cases ts with
      | nil => simp at hnext
      | cons u us => exact hw w hword ⟨u, rfl, (List.cons.inj hnext).1⟩
    | cons s before => exact hclosed before w after (List.cons.inj h).2

namespace Writer

theorem parted_tokensAfter (s : Symbol) (ts : List Token) :
    s.isOpener ∨ Parted (tokensAfter s ts).toList := by
  cases ts with
  | nil => exact .inr (by simp [Parted, tokensAfter])
  | cons t ts =>
    rw [toList_tokensAfter]
    split
    · next h =>
      rcases Bool.or_eq_true_iff.mp h with h | h
      · exact .inl (isOpener_of_tightAfter h)
      · refine .inr ?_
        unfold tightBefore at h
        split at h <;> simp_all [Parted, Symbol.text, Symbol.value, Bracket.closing]
    · exact .inr fun c hc => .inl (Option.some.inj hc).symm

/-- A symbol of a text is read back unless it is an infinite number, or a word that leaves a round
bracket open and stands before a closing one. -/
theorem nextStep_respelled {s : Symbol} (hs : s.Legible) (hsource : ∃ source, Spells source s)
    {rest : List Char} (hr : s.isOpener ∨ Parted rest)
    (hfinite : ∀ x, s = .number (.float x) → x.isFinite = true)
    (hclosed : ∀ w, s = .word w → rest.head? = some ')' → IsBalanced w) (line : Int) :
    ∃ line', nextStep line (s.text.toList ++ rest) = .ok (some ⟨⟨s, line⟩, line', rest⟩) := by
  obtain ⟨source, hsource⟩ := hsource
  cases s with
  | word w =>
    have hr : Parted rest := hr.resolve_left (by simp [Symbol.isOpener])
    refine ⟨line, nextStep_isWord hs fun a ha => ?_⟩
    rcases hr a ha with rfl | rfl | rfl
    · exact .inl (by decide)
    · exact .inr ⟨.inl rfl, hclosed w rfl ha⟩
    · exact .inl (by decide)
  | number n =>
    have hr : Parted rest := hr.resolve_left (by simp [Symbol.isOpener])
    exact ⟨line, nextStep_number hs (fun x hx => hfinite x (hx ▸ rfl)) hr.stops⟩
  | reference name =>
    have hr : Parted rest := hr.resolve_left (by simp [Symbol.isOpener])
    obtain ⟨hne, hname⟩ := name_of_spells hsource
    exact ⟨line, nextStep_reference hne hname hr line⟩
  | directive name =>
    have hr : Parted rest := hr.resolve_left (by simp [Symbol.isOpener])
    obtain ⟨hne, hname⟩ := directive_of_spells hsource
    exact ⟨line, nextStep_directive hne hname hr line⟩
  | quoted s => exact ⟨_, nextStep_quoted s rest⟩
  | opener b => exact ⟨line, by cases b <;> exact nextStep_single rfl⟩
  | closer b => exact ⟨line, by cases b <;> exact nextStep_single rfl⟩
  | comma => exact ⟨line, nextStep_single rfl⟩
  | terminator => exact ⟨line, nextStep_single rfl⟩

/-- The next token is a closing round bracket exactly if its text follows. -/
theorem head?_tokensAfter_word (w : String) (ts : List Token) :
    (tokensAfter (.word w) ts).toList.head? = some ')' ↔
      ∃ u ∈ ts.head?, u.symbol = .closer .round := by
  cases ts with
  | nil => simp [tokensAfter]
  | cons t ts =>
    rw [toList_tokensAfter]
    cases ht : tightBefore t.symbol with
    | false =>
      have hne : t.symbol ≠ .closer .round := by
        rintro h
        simp [h, tightBefore] at ht
      simp [tightAfter, hne]
    | true =>
      unfold tightBefore at ht
      split at ht <;> simp_all [tightAfter, Symbol.text, Symbol.value, Bracket.closing]

theorem lexesAt_text {t : Token} {ts : List Token} (ht : t.symbol.Legible)
    (hsource : ∃ source, Spells source t.symbol)
    (ih : ∀ line, LexesAt line (tokensAfter t.symbol ts).toList (ts.map Token.symbol) ↔
      Token.AllRespelled ts) (line : Int) :
    LexesAt line (t.symbol.text.toList ++ (tokensAfter t.symbol ts).toList)
      ((t :: ts).map Token.symbol) ↔ Token.AllRespelled (t :: ts) := by
  have hparted := parted_tokensAfter t.symbol ts
  rw [List.map_cons, Token.allRespelled_cons]
  by_cases hgood : (∀ x, t.symbol = .number (.float x) → x.isFinite = true) ∧
      ∀ w, t.symbol = .word w → (∃ u ∈ ts.head?, u.symbol = .closer .round) → IsBalanced w
  · obtain ⟨line', hnext⟩ := nextStep_respelled ht hsource hparted hgood.1 (fun w hw hround => by
      rw [hw] at hround
      exact hgood.2 w hw ((head?_tokensAfter_word w ts).mp hround)) line
    rw [lexesAt_cons hnext, ih]
    exact ⟨fun h => ⟨hgood, h.2⟩, fun h => ⟨rfl, h.2⟩⟩
  · refine iff_of_false (fun hlexes => ?_) fun h => hgood h.1
    refine hgood ⟨fun x hx => ?_, fun w hw hnext => ?_⟩
    · by_contra hinfinite
      rw [hx] at hlexes hparted
      obtain ⟨w, hword⟩ := nextStep_infinite (Bool.eq_false_iff.mpr hinfinite)
        (hparted.resolve_left (by simp [Symbol.isOpener])) line
      exact absurd ((lexesAt_cons hword).mp hlexes).1 (by simp)
    · by_contra hbalanced
      rw [hw] at hlexes ht
      obtain ⟨rest, hrest⟩ := List.head?_eq_some_iff.mp ((head?_tokensAfter_word w ts).mpr hnext)
      rw [hrest] at hlexes
      cases hstep : nextStep line (w.toList ++ ')' :: rest) with
      | error f =>
        have hlex : lex line (w.toList ++ ')' :: rest) = ⟨[], some f⟩ := by
          rw [lex.eq_def, hstep]
        have hfault := hlexes.1
        rw [show (Symbol.word w).text = w from rfl, hlex] at hfault
        contradiction
      | ok found =>
        cases found with
        | none =>
          have hlex : lex line (w.toList ++ ')' :: rest) = ⟨[], none⟩ := by
            rw [lex.eq_def, hstep]
          have htokens := hlexes.2
          rw [show (Symbol.word w).text = w from rfl, hlex] at htokens
          contradiction
        | some s =>
          exact nextStep_unbalanced ht hbalanced hstep ((lexesAt_cons hstep).mp hlexes).1

theorem lexesAt_tokensAfter {ts : List Token} (hlegible : ∀ t ∈ ts, t.symbol.Legible)
    (hsources : ∀ t ∈ ts, ∃ source, Spells source t.symbol) (s : Symbol) (line : Int) :
    LexesAt line (tokensAfter s ts).toList (ts.map Token.symbol) ↔ Token.AllRespelled ts := by
  induction ts generalizing s line with
  | nil =>
    refine iff_of_true ?_ Token.allRespelled_nil
    rw [LexesAt, tokensAfter]
    exact lex_nil ▸ ⟨rfl, rfl⟩
  | cons t ts ih =>
    obtain ⟨ht, hts⟩ := List.forall_mem_cons.mp hlegible
    obtain ⟨hsource, hsources⟩ := List.forall_mem_cons.mp hsources
    have htext := lexesAt_text ht hsource (ih hts hsources t.symbol) line
    rw [toList_tokensAfter]
    split
    · exact htext
    · have hblank : lex line (' ' :: (t.symbol.text.toList ++ (tokensAfter t.symbol ts).toList)) =
          lex line (t.symbol.text.toList ++ (tokensAfter t.symbol ts).toList) :=
        lex_congr (by rw [nextStep, nextStep, skipGap_blank (by decide), if_neg (by decide)])
      rw [LexesAt, List.singleton_append, hblank]
      exact htext

theorem tokens_eq_ok_iff {source text : String} {line : Int} {ts : List Token} :
    Lexer.tokens source text line = .ok ts ↔ lex line text.toList = ⟨ts, none⟩ := by
  unfold Lexer.tokens
  split
  · next h => simp [h]
  · next h => simp [h]

/-- The tokens of a text are written so that they are lexed again, exactly if no number among them
is infinite and no word that leaves a round bracket open stands before a closing one. -/
theorem relexes_iff {source text : String} {line : Int} {ts : List Token}
    (h : Lexer.tokens source text line = .ok ts) (source' : String) (line' : Int) :
    (∃ ts', Lexer.tokens source' (tokens ts) line' = .ok ts' ∧
      ts'.map Token.symbol = ts.map Token.symbol) ↔ Token.AllRespelled ts := by
  have hlexes : (∃ ts', Lexer.tokens source' (tokens ts) line' = .ok ts' ∧
      ts'.map Token.symbol = ts.map Token.symbol) ↔
        LexesAt line' (tokens ts).toList (ts.map Token.symbol) := by
    simp only [tokens_eq_ok_iff]
    constructor
    · rintro ⟨ts', hlex, hsymbols⟩
      exact ⟨by rw [hlex], by rw [hlex, hsymbols]⟩
    · rintro ⟨hfault, hsymbols⟩
      exact ⟨_, by rw [← hfault], hsymbols⟩
  have hlex := tokens_eq_ok_iff.mp h
  have hlegible := legible_lex line text.toList
  have hsources : ∀ t ∈ ts, ∃ source, Spells source t.symbol := by
    obtain ⟨ps, ending, hsplits⟩ := lex_split line text
    rw [hlex] at hsplits
    rw [show ts = ps.map Piece.token from hsplits.tokens]
    exact List.forall_mem_map.mpr fun p hp => ⟨p.source, (hsplits.sources p hp).2⟩
  rw [hlex] at hlegible
  rw [hlexes]
  cases ts with
  | nil => exact lexesAt_tokensAfter hlegible hsources .comma line'
  | cons t ts =>
    obtain ⟨ht, hts⟩ := List.forall_mem_cons.mp hlegible
    obtain ⟨hsource, hsources⟩ := List.forall_mem_cons.mp hsources
    rw [toList_tokens]
    exact lexesAt_text ht hsource (lexesAt_tokensAfter hts hsources t.symbol) line'

theorem relexes_enclosed :
    let ts : List Token := [⟨.opener .round, 1⟩, ⟨.word "div(p,U)", 1⟩, ⟨.closer .round, 1⟩,
      ⟨.reference "a b", 1⟩, ⟨.opener .square, 2⟩, ⟨.directive "neg", 2⟩, ⟨.number (.int 1), 2⟩,
      ⟨.closer .square, 2⟩, ⟨.quoted "\"", 2⟩, ⟨.terminator, 2⟩]
    Lexer.tokens "<inline>" "( div(p,U) )${ a b }\n[#neg +1]\"\\\"\" ;" = .ok ts ∧
      ∃ ts', Lexer.tokens "<inline>" (tokens ts) = .ok ts' ∧
        ts'.map Token.symbol = ts.map Token.symbol := by
  intro ts
  have hlex : Lexer.tokens "<inline>" "( div(p,U) )${ a b }\n[#neg +1]\"\\\"\" ;" = .ok ts :=
    tokens_eq_ok_iff.mpr (lex_of_lexWithin (n := 11) (by decide +kernel))
  have hts : Token.AllRespelled ts := by
    have hbalanced : IsBalanced "div(p,U)" := rfl
    simp [ts, Token.allRespelled_cons, Token.allRespelled_nil, hbalanced]
  exact ⟨hlex, (relexes_iff hlex _ _).mpr hts⟩

/-- A bracket that a word leaves open is closed after the word in the text and in the word after
writing; and a number beyond the largest double is written as a word. -/
theorem not_relexes :
    (∃ ts, Lexer.tokens "<inline>" "a( )" = .ok ts ∧
      ¬ ∃ ts', Lexer.tokens "<inline>" (tokens ts) = .ok ts' ∧
        ts'.map Token.symbol = ts.map Token.symbol) ∧
    ∃ ts, Lexer.tokens "<inline>" "1e999" = .ok ts ∧
      ¬ ∃ ts', Lexer.tokens "<inline>" (tokens ts) = .ok ts' ∧
        ts'.map Token.symbol = ts.map Token.symbol := by
  constructor
  · refine ⟨[⟨.word "a(", 1⟩, ⟨.closer .round, 1⟩],
      tokens_eq_ok_iff.mpr (lex_of_lexWithin (n := 3) (by decide +kernel)), ?_⟩
    rintro ⟨ts', hlex, hsymbols⟩
    have hword : Lexer.tokens "<inline>" "a()" = .ok [⟨.word "a()", 1⟩] :=
      tokens_eq_ok_iff.mpr (lex_of_lexWithin (n := 2) (by decide +kernel))
    obtain rfl : [⟨.word "a()", 1⟩] = ts' := Except.ok.inj (hword.symm.trans hlex)
    exact absurd hsymbols (by decide)
  · refine ⟨[⟨.number (.float (Number.Decimal.toFloat false ⟨1, 999⟩)), 1⟩],
      tokens_eq_ok_iff.mpr (lex_of_lexWithin (n := 2) (by decide +kernel)), ?_⟩
    rintro ⟨ts', hlex, hsymbols⟩
    have hword : Lexer.tokens "<inline>" "inf" = .ok [⟨.word "inf", 1⟩] :=
      tokens_eq_ok_iff.mpr (lex_of_lexWithin (n := 2) (by decide +kernel))
    have htext :
        tokens [⟨.number (.float (Number.Decimal.toFloat false ⟨1, 999⟩)), 1⟩] = "inf" := by
      decide +kernel
    rw [htext] at hlex
    obtain rfl : [⟨.word "inf", 1⟩] = ts' := Except.ok.inj (hword.symm.trans hlex)
    simp at hsymbols

end Writer

end CaseDict
