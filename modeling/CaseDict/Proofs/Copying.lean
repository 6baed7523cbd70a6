import CaseDict.Proofs.Atomic
import CaseDict.Proofs.Giving
import CaseDict.Proofs.Inward
import CaseDict.Proofs.Lexing
import CaseDict.Proofs.Onward
import CaseDict.Proofs.Overwriting
/-! # The two ways of copying a dictionary

`keyword $name;` copies a dictionary and renames the copy, `keyword { $name; }` makes a dictionary
and copies the entries into it. While redefinitions are retained both insert one dictionary with
the keyword, and with entries that equal those copied, lines included. The copy however is a pattern
where the dictionary copied is one, and the dictionary made where the keyword is quoted, so the two
agree in that as well only if the one that is copied stands under a keyword of the same kind
(`Reader.copies_agree_iff`). -/

namespace CaseDict

open Expansion Statement

namespace Lookup

/-- Inside a dictionary that has no entries yet, names that lead inwards denote what they denote
around it. -/
theorem scopedEntry_inner {ε : Type} (view : Inspection ε) (frames : List (Frame ε)) {name : String}
    (h : leadsOutwards name = false) :
    scopedEntry view (⟨[], false⟩ :: frames) name = scopedEntry view frames name := by
  rw [scopedEntry_inward view _ h, scopedEntry_inward view _ h]
  rfl

end Lookup

/-! ### Placing while redefinitions are retained -/

namespace Scope

/-- There is a dictionary or block to place entries in. -/
def Exists : Scope → Prop
  | fresh .. => True
  | stored ws d _ _ => ws.isDictionary d
  | staged .. => True

/-- The entry goes to the end as it is, and nothing is reported. -/
theorem place_exists {s : Scope} (hs : s.Exists) (e : Entry) :
    (s.place .retain e).1 = .ok ([e], []) := by
  cases s with
  | fresh es around removed => simp only [place, Entry.place_retain]
  | staged es below => simp only [place, Entry.place_retain]
  | stored ws d placed removed =>
    have htree := (Workspace.Grew.insert_plant hs e).holds.tree
    rw [place_stored, Workspace.exec_place_append (.inl rfl)]
    simp only [htree]

end Scope

theorem exec_place_exists {s : ReadState} (hs : s.scope.Exists) (hmode : s.mode = .retain)
    (e : Entry) :
    exec (place e) s = (.ok [e], { s with scope := (s.scope.place .retain e).2 }) := by
  have hplace := Scope.place_exists hs e
  rw [exec_place, hmode]
  rcases hp : s.scope.place .retain e with ⟨result, scope⟩
  obtain rfl : result = .ok ([e], []) := by rwa [hp] at hplace
  simp only [List.append_nil]

/-! ### Entries that copy -/

section

variable {setup : Setup} {budget n : Nat} {run : DirectiveRunner} {i j : Input} {s u : ReadState}
  {h target : Heading} {name : String} {es : List Entry} {e : Entry} {a b c d : Int}
  {ts : List Token}

theorem gives_readStatement_keyword {t : Token} {k : String} {p : Bool} {new : List Entry}
    (ht : t.symbol = keywordSymbol k p) :
    Gives (readStatement setup budget run n t i) s new j u ↔
      ∃ e v, Gives (readEntry setup budget run n ⟨k, p, t.line, -1⟩ i) s e j v ∧
        exec (place e) v = (.ok new, u) := by
  have hstated : stated setup (run n) (readEntry setup budget run n) t =
      andThen (readEntry setup budget run n ⟨k, p, t.line, -1⟩) placing := by
    cases p <;> simp only [stated, ht, keywordSymbol, if_true, Bool.false_eq_true, if_false]
  rw [gives_readStatement, hstated, gives_andThen]
  constructor
  · rintro ⟨e, l, v, hentry, hplace⟩
    obtain ⟨placed, v', hplace, hpure⟩ := gives_bind.mp hplace
    obtain ⟨rfl, rfl, rfl⟩ := gives_pure.mp hpure
    exact ⟨e, v, hentry, hplace⟩
  · rintro ⟨e, v, hentry, hplace⟩
    exact ⟨e, j, v, hentry, gives_bind.mpr ⟨new, u, hplace, gives_pure.mpr ⟨rfl, rfl, rfl⟩⟩⟩

theorem gives_statement {depth : Int} {t : Token} {new : List Entry} (hi : i.tokens = t :: ts) :
    Gives (Reader.statement setup depth i n) s new j u ↔
      Gives (readStatement setup (setup.settings.budget depth)
        (runDirective setup (setup.settings.budget depth)) n t (i.after t ts)) s new j u := by
  rw [Gives, Gives, ← outcome_eq_ok, ← outcome_eq_ok, Reader.outcome_statement_cons hi]

/-- A copy that a terminator ends. -/
theorem copied_of_terminator {t : Token} (hi : i.tokens = ⟨.terminator, b⟩ :: ts)
    (hx : Gives (copyDictionary h name t target es i) s e j u) :
    e = .dictionary ⟨h.keyword, target.isPattern, h.startLine, b⟩ es ∧ u = s := by
  unfold copyDictionary at hx
  rw [gives_lift, Input.next_of_tokens hi] at hx
  simp only [Except.ok.injEq, exists_eq_left', pure_bind] at hx
  obtain ⟨copy, hcopy, hx⟩ := gives_lift.mp hx
  obtain ⟨-, rfl⟩ := Entry.copy_eq_ok.mp hcopy
  obtain ⟨rfl, -, rfl⟩ := gives_pure.mp hx
  exact ⟨rfl, rfl⟩

/-- What comes of a reference to a dictionary behind a keyword. -/
theorem copied_of_gives (hi : i.tokens = ⟨.reference name, a⟩ :: ⟨.terminator, b⟩ :: ts)
    (hfind : (s.surroundings setup).find? name = some (.dictionary target es))
    (hx : Gives (readEntry setup budget run n h i) s e j u) :
    e = .dictionary ⟨h.keyword, target.isPattern, h.startLine, b⟩ es ∧ u = s := by
  rw [readEntry.eq_def, gives_lift, Input.next_of_tokens hi] at hx
  simp only [Except.ok.injEq, exists_eq_left'] at hx
  obtain ⟨around, v, haround, hx⟩ := gives_bind.mp hx
  obtain ⟨rfl, rfl⟩ : around = s.surroundings setup ∧ v = s := by
    cases haround
    exact ⟨rfl, rfl⟩
  rw [hfind] at hx
  obtain ⟨⟨copy, more⟩, v, hcopy, hpure⟩ := gives_bind.mp hx
  obtain ⟨rfl, -, rfl⟩ := gives_pure.mp hpure
  exact copied_of_terminator rfl ⟨more, hcopy, rfl⟩

/-- The statements of a dictionary that consist of a reference to another one. -/
theorem spliced_of_brace {closing : Heading} {ending : Option Token} {around : List (Frame Entry)}
    (hi : i.tokens = ⟨.reference name, b⟩ :: ⟨.terminator, c⟩ :: ⟨.closer .brace, d⟩ :: ts)
    (hs : s.scope = .fresh [] around) (hmode : s.mode = .retain)
    (hfind : (s.surroundings setup).find? name = some (.dictionary target es))
    (hx : Gives (readEntries setup budget run n (some closing) [] i) s ending j u) :
    ending = some ⟨.closer .brace, d⟩ ∧
      u = { s with scope := .fresh es around } := by
  rw [gives_readEntries (Input.next_of_tokens hi), if_neg (by simp), if_neg (by simp),
    if_neg (by simp [Symbol.isDirectiveIn])] at hx
  obtain ⟨new, l, v, hstatement, hx⟩ := hx
  obtain ⟨es', ⟨target', hfind', -⟩, hsheds, hplace⟩ :=
    gives_stated_reference.mp (gives_readStatement.mp hstatement)
  obtain ⟨rfl, rfl⟩ : target' = target ∧ es' = es := by
    cases hfind.symm.trans hfind'
    exact ⟨rfl, rfl⟩
  have hshed := Input.next_of_tokens (i := i.after ⟨.reference name, b⟩ _)
    (rfl : _ = ⟨.terminator, c⟩ :: ⟨.closer .brace, d⟩ :: ts)
  rw [Input.Sheds, hshed] at hsheds
  obtain rfl : l = _ := hsheds
  rw [gives_readEntries (Input.next_of_tokens rfl), if_pos rfl] at hx
  obtain ⟨-, rfl, -, rfl⟩ := hx
  have hcarries : s.scope.Carries fun _ => True := by
    rw [hs]
    exact ⟨List.forall_mem_nil _, fun f _ e _ v _ => trivial⟩
  rw [exec_placeAll_retain hmode hcarries, hs] at hplace
  cases hplace
  exact ⟨rfl, rfl⟩

/-- What comes of a reference to a dictionary between braces. -/
theorem spliced_of_gives (hi : i.tokens = ⟨.opener .brace, a⟩ :: ⟨.reference name, b⟩ ::
      ⟨.terminator, c⟩ :: ⟨.closer .brace, d⟩ :: ts)
    (hfind : (s.surroundings setup).find? name = some (.dictionary target es))
    (hname : Lookup.leadsOutwards name = false) (hmode : s.mode = .retain)
    (hx : Gives (readEntry setup budget run n h i) s e j u) :
    e = .dictionary ⟨h.keyword, h.isPattern, h.startLine, d⟩ es ∧ u = s := by
  rw [readEntry.eq_def, gives_lift, Input.next_of_tokens hi] at hx
  simp only [Except.ok.injEq, exists_eq_left'] at hx
  split at hx
  · exact absurd hx not_gives_throw_bind
  obtain ⟨h', hchecked, hx⟩ := gives_lift.mp hx
  obtain ⟨⟨⟨ending, more⟩, es'⟩, v, hinside, hpure⟩ := gives_bind.mp hx
  obtain ⟨rfl, -, rfl⟩ := gives_pure.mp hpure
  obtain ⟨v, hentries, rfl, rfl⟩ := Comparison.exec_inDictionary_ok.mp hinside
  have hinner := (Lookup.scopedEntry_inner Entry.inspection s.scope.frames hname).trans hfind
  obtain ⟨rfl, rfl⟩ := spliced_of_brace (s := { s with scope := s.scope.inner }) rfl rfl hmode
    hinner ⟨more, hentries, rfl⟩
  obtain ⟨-, rfl⟩ := Heading.checked_eq_ok.mp hchecked
  exact ⟨rfl, rfl⟩

end

/-! ### The two statements -/

/-- The statement placed the entry, which went to the end as it is, and changed nothing else. -/
def ReadState.Inserts (s : ReadState) (e : Entry) (u : ReadState) : Prop :=
  (s.scope.place .retain e).1 = .ok ([e], []) ∧
    u = { s with scope := (s.scope.place .retain e).2 }

theorem inserts_of_exec {s u : ReadState} (hs : s.scope.Exists) (hmode : s.mode = .retain)
    {e : Entry} {new : List Entry} (h : exec (place e) s = (.ok new, u)) :
    new = [e] ∧ s.Inserts e u := by
  rw [exec_place_exists hs hmode] at h
  cases h
  exact ⟨rfl, Scope.place_exists hs e, rfl⟩

namespace Reader

/-- **Both ways of copying a dictionary insert one with the keyword and with the entries of the one
that is copied.** Both are patterns exactly where the keyword is quoted if and only if that holds
of the dictionary that is copied: the copy behind the keyword takes this from it. -/
theorem copies_agree_iff {setup : Setup} {depth : Int} {n : Nat} {s u u' : ReadState}
    {i i' j j' : Input} {k name : String} {p : Bool} {target : Heading} {es new new' : List Entry}
    {a b c a' b' c' d' e' : Int} {ts us : List Token}
    (hmode : s.mode = .retain) (hs : s.scope.Exists)
    (hname : Lookup.leadsOutwards name = false)
    (hfind : (s.surroundings setup).find? name = some (.dictionary target es))
    (hi : i.tokens =
      ⟨keywordSymbol k p, a⟩ :: ⟨.reference name, b⟩ :: ⟨.terminator, c⟩ :: ts)
    (hj : j.tokens = ⟨keywordSymbol k p, a'⟩ :: ⟨.opener .brace, b'⟩ :: ⟨.reference name, c'⟩ ::
      ⟨.terminator, d'⟩ :: ⟨.closer .brace, e'⟩ :: us)
    (hcopy : Gives (statement setup depth i n) s new i' u)
    (hsplice : Gives (statement setup depth j n) s new' j' u') :
    ∃ copy made, new = [copy] ∧ new' = [made] ∧ s.Inserts copy u ∧ s.Inserts made u' ∧
      (copy.keyword = k ∧ made.keyword = k) ∧
      (copy.inner? = some es ∧ made.inner? = some es) ∧
      (copy.head.isPattern = p ∧ made.head.isPattern = p ↔ target.isPattern = p) := by
  obtain ⟨copy, v, hentry, hplace⟩ :=
    (gives_readStatement_keyword rfl).mp ((gives_statement hi).mp hcopy)
  obtain ⟨rfl, rfl⟩ := copied_of_gives rfl hfind hentry
  obtain ⟨made, v', hentry', hplace'⟩ :=
    (gives_readStatement_keyword rfl).mp ((gives_statement hj).mp hsplice)
  obtain ⟨rfl, rfl⟩ := spliced_of_gives rfl hfind hname hmode hentry'
  obtain ⟨rfl, hinserts⟩ := inserts_of_exec hs hmode hplace
  obtain ⟨rfl, hinserts'⟩ := inserts_of_exec hs hmode hplace'
  exact ⟨_, _, rfl, rfl, hinserts, hinserts', ⟨rfl, rfl⟩, ⟨rfl, rfl⟩, and_iff_left rfl⟩

/-- A pattern, and an entry that is shadowed. -/
def copiedEntries : List Entry :=
  [.primitive ⟨"x", false, 2, 2⟩ [⟨.word "on", 2⟩], .dictionary ⟨"y.*", true, 3, 4⟩ [],
    .primitive ⟨"x", false, 5, 5⟩ [⟨.number (.int 1), 5⟩]]

/-- A dictionary with these entries, and copies of it. -/
def copyState (copies : List Entry) : ReadState :=
  ⟨.fresh (.dictionary ⟨"d", false, 1, 6⟩ copiedEntries :: copies) [], .retain, []⟩

/-- `k $d;` -/
def copyStatement (quoted : Bool) : Input :=
  .ofTokens "t" [⟨keywordSymbol "k" quoted, 7⟩, ⟨.reference "d", 7⟩, ⟨.terminator, 7⟩]

/-- `k { $d; }` -/
def spliceStatement (quoted : Bool) : Input :=
  .ofTokens "t" [⟨keywordSymbol "k" quoted, 7⟩, ⟨.opener .brace, 7⟩, ⟨.reference "d", 8⟩,
    ⟨.terminator, 8⟩, ⟨.closer .brace, 9⟩]

/-- The copy is no pattern, whether its keyword is quoted or not. -/
theorem gives_copyStatement (quoted : Bool) :
    Gives (statement bareSetup 0 (copyStatement quoted)) (copyState [])
      [.dictionary ⟨"k", false, 7, 7⟩ copiedEntries] ⟨"t", [], none, 7⟩
      (copyState [.dictionary ⟨"k", false, 7, 7⟩ copiedEntries]) := by
  refine ⟨⟨⟨"t", [], none, 7⟩, Nat.zero_le _⟩, ?_, rfl⟩
  cases quoted <;> cbv

theorem gives_spliceStatement (quoted : Bool) :
    Gives (statement bareSetup 0 (spliceStatement quoted)) (copyState [])
      [.dictionary ⟨"k", quoted, 7, 9⟩ copiedEntries] ⟨"t", [], none, 9⟩
      (copyState [.dictionary ⟨"k", quoted, 7, 9⟩ copiedEntries]) := by
  refine ⟨⟨⟨"t", [], none, 9⟩, Nat.zero_le _⟩, ?_, rfl⟩
  cases quoted <;> cbv

/-- Under plain keywords the two ways agree. -/
theorem copies_agree_plain : ∃ copy made u u',
    (copyState []).Inserts copy u ∧ (copyState []).Inserts made u' ∧
      copy.inner? = some copiedEntries ∧ made.inner? = some copiedEntries ∧
      copy.head.isPattern = false ∧ made.head.isPattern = false := by
  obtain ⟨copy, made, -, -, hcopy, hmade, -, ⟨hinner, hinner'⟩, hpattern⟩ :=
    copies_agree_iff (s := copyState []) rfl trivial (by cbv) rfl rfl rfl
      (gives_copyStatement false) (gives_spliceStatement false)
  obtain ⟨hplain, hplain'⟩ := hpattern.mpr rfl
  exact ⟨copy, made, _, _, hcopy, hmade, hinner, hinner', hplain, hplain'⟩

/-- Under a quoted keyword the copy of a dictionary with a plain one is no pattern, and the
dictionary made is one. -/
theorem not_copies_agree : Pattern.fault? "k" = none ∧ Lookup.leadsOutwards "d" = false ∧
    ∃ copy made, Gives (statement bareSetup 0 (copyStatement true)) (copyState []) [copy]
        ⟨"t", [], none, 7⟩ (copyState [copy]) ∧
      Gives (statement bareSetup 0 (spliceStatement true)) (copyState []) [made]
        ⟨"t", [], none, 9⟩ (copyState [made]) ∧
      copy.head.isPattern ≠ made.head.isPattern :=
  ⟨by decide, by cbv, _, _, gives_copyStatement true, gives_spliceStatement true, by decide⟩

end Reader

end CaseDict
