import CaseDict.Proofs.Joining
import CaseDict.Proofs.LiteralRegime
import Mathlib
/-! # Where errors are found

Every reading error names a line, which is not before the first, and a text, which is the text that
is read, a file that the read includes or a text of the environment that it expands
(`Reader.error_located`). The tokens of a text stand on lines from the first on, entries begin where
their keywords stand, and what the environment brings gets the line of the reference. -/

namespace CaseDict

namespace Lexer

variable {line : Int} {cs : List Char}

/-- No block comment is open that began before the line. -/
def Gap.BeginsFrom (first : Int) : Gap → Prop
  | blockComment start => first ≤ start
  | _ => True

theorem skipGap_fault_line {gap : Gap} {f : LexFault} {first : Int} (hline : first ≤ line)
    (hgap : gap.BeginsFrom first) (h : skipGap gap line cs = .error f) :
    ∃ cause l, f = .misplaced cause l ∧ first ≤ l := by
  fun_induction skipGap gap line cs <;> grind [Gap.BeginsFrom]

theorem skipGap_line_le {gap : Gap} {line' : Int} {rest : List Char}
    (h : skipGap gap line cs = .ok (line', rest)) : line ≤ line' := by
  fun_induction skipGap gap line cs <;> grind

theorem lexeme_fault_line {c : Char} {f : LexFault} (h : lexeme line c cs = .error f) :
    f = .numeralTooLong ∨ ∃ cause, f = .misplaced cause line := by
  unfold lexeme at h
  split at h
  · unfold quoted at h
    split at h
    · contradiction
    · exact .inr ⟨_, (Except.error.inj h).symm⟩
  split at h
  · unfold reference at h
    split at h
    · split at h
      · split at h
        · exact .inr ⟨_, (Except.error.inj h).symm⟩
        · contradiction
      · exact .inr ⟨_, (Except.error.inj h).symm⟩
      · exact .inr ⟨_, (Except.error.inj h).symm⟩
    · split at h
      · exact .inr ⟨_, (Except.error.inj h).symm⟩
      · contradiction
  split at h
  · unfold directive at h
    split at h
    · exact .inr ⟨_, (Except.error.inj h).symm⟩
    · contradiction
  split at h
  · contradiction
  · unfold word classify at h
    dsimp only at h
    split at h
    · contradiction
    · exact .inl (Except.error.inj h).symm
    · contradiction

theorem nextStep_fault_line {f : LexFault} (h : nextStep line cs = .error f) :
    f = .numeralTooLong ∨ ∃ cause l, f = .misplaced cause l ∧ line ≤ l := by
  unfold nextStep at h
  split at h
  · next hgap =>
    cases h
    exact .inr (skipGap_fault_line (Int.le_refl _) (show Gap.plain.BeginsFrom _ from trivial) hgap)
  · contradiction
  · next line' c rest hgap =>
    have hline : line ≤ line' := skipGap_line_le hgap
    cases hl : lexeme line' c rest with
    | ok s =>
      rw [hl] at h
      contradiction
    | error f' =>
      rw [hl] at h
      cases h
      exact (lexeme_fault_line hl).imp_right fun ⟨cause, hf⟩ => ⟨cause, line', hf, hline⟩

theorem lexeme_line_le {c : Char} {s : Step} (h : lexeme line c cs = .ok s) : line ≤ s.line := by
  unfold lexeme at h
  split at h
  · unfold quoted newlines at h
    grind
  split at h
  · unfold reference at h
    grind
  split at h
  · unfold directive at h
    grind
  split at h
  · grind
  · unfold word at h
    dsimp only at h
    cases hc : classify (c :: (splitWord 0 cs).1) <;> rw [hc] at h <;> cases h
    exact Int.le_refl _

theorem nextStep_line_mono {s : Step} (h : nextStep line cs = .ok (some s)) : line ≤ s.line := by
  unfold nextStep at h
  split at h
  · contradiction
  · cases h
  · next line' c rest hgap =>
    have hline := skipGap_line_le hgap
    cases hl : lexeme line' c rest with
    | error f =>
      rw [hl] at h
      contradiction
    | ok s' =>
      rw [hl] at h
      cases h
      have hlexeme := lexeme_line_le hl
      omega

/-- The lines of a text are numbered from the first on. -/
theorem lex_lines {first : Int} (hfirst : first ≤ line) :
    (∀ t ∈ (lex line cs).tokens, first ≤ t.line) ∧
      ∀ f ∈ (lex line cs).fault, f = .numeralTooLong ∨
        ∃ cause l, f = .misplaced cause l ∧ first ≤ l := by
  induction hn : cs.length using Nat.strongRecOn generalizing line cs with
  | ind n ih =>
    rw [lex.eq_def]
    split
    · next f hs =>
      refine ⟨List.forall_mem_nil _, fun f' hf => ?_⟩
      cases hf
      obtain hf | ⟨cause, l, hf, hl⟩ := nextStep_fault_line hs
      · exact .inl hf
      · exact .inr ⟨cause, l, hf, by omega⟩
    · exact ⟨List.forall_mem_nil _, fun _ hf => by contradiction⟩
    · next s hs =>
      have hmono := nextStep_line_mono hs
      have htoken := nextStep_line_le hs
      obtain ⟨htokens, hfault⟩ := ih _ (hn ▸ nextStep_length_lt hs) (show first ≤ s.line by omega) rfl
      exact ⟨List.forall_mem_cons.mpr ⟨by omega, htokens⟩, hfault⟩

end Lexer

/-- A heading of an entry that cannot be copied is told by the line it stands on. -/
theorem Heading.failure?_eq_some {h : Heading} {f : Failure} (hf : h.failure? = some f) :
    f = .unplaced (.malformedPattern h.keyword) h.startLine ∨ ∃ why, f = .pattern why := by
  unfold failure? at hf
  split at hf
  · obtain ⟨why, -, rfl⟩ := Option.map_eq_some_iff.mp hf
    cases why with
    | malformed => exact .inl rfl
    | _ => exact .inr ⟨_, rfl⟩
  · contradiction

theorem Removal.readAll_eq_some {names : List (String × Bool)} {what : List Removal} {f : Failure}
    (h : readAll names = (what, some f)) : ∃ why, f = .pattern why := by
  induction names generalizing what with
  | nil => cases h
  | cons n more ih =>
    unfold readAll at h
    split at h
    · next f' hread =>
      cases h
      unfold read at hread
      split at hread
      · split at hread
        · contradiction
        · exact ⟨_, (Except.error.inj hread).symm⟩
      · contradiction
    · cases hmore : readAll more with
      | mk rs f' =>
        rw [hmore] at h
        cases h
        exact ih hmore

theorem Files.isFile_eq_error {fs : Files} {p : Path} {f : Failure}
    (h : fs.isFile p = .error f) : f = .file .nameTooLong p.text := by
  unfold isFile at h
  split at h
  · contradiction
  · exact (Except.error.inj h).symm
  · contradiction

namespace Entry

/-- The entry begins on a line, and the tokens of its value, which are literal, stand on lines. -/
def Told (line : Int → Prop) (e : Entry) : Prop :=
  (∀ h ∈ e.headings, line h.startLine) ∧
    e.Carries fun ts => ∀ t ∈ ts, t.symbol.isMacro = false ∧ line t.line

variable {line : Int → Prop} {h : Heading}

theorem told_primitive {ts : List Token} : (primitive h ts).Told line ↔
    line h.startLine ∧ ∀ t ∈ ts, t.symbol.isMacro = false ∧ line t.line := by
  rw [Told, carries_primitive, headings, List.forall_mem_singleton]

theorem told_dictionary {es : List Entry} :
    (dictionary h es).Told line ↔ line h.startLine ∧ ∀ e ∈ es, e.Told line := by
  simp only [Told, carries_dictionary, headings_dictionary, List.forall_mem_cons, mem_headingsOf,
    and_assoc]
  refine and_congr_right fun _ => ⟨fun ⟨hl, hc⟩ e he => ⟨fun k hk => hl k ⟨e, he, hk⟩, hc e he⟩,
    fun hes => ⟨fun k ⟨e, he, hk⟩ => (hes e he).1 k hk, fun e he => (hes e he).2⟩⟩

end Entry

theorem Files.readText_eq_error {fs : Files} {p : Path} {f : Failure}
    (h : fs.readText p = .error f) : ∃ why, f = .file why p.text := by
  unfold readText at h
  split at h
  · contradiction
  · exact ⟨_, (Except.error.inj h).symm⟩
  · exact ⟨_, (Except.error.inj h).symm⟩

/-- The texts that a guard lets pass have names in `source`. -/
structure Guard.Admits (guard : Guard) (source : String → Prop) : Prop where
  file {p : Path} (h : guard (.file p) = false) : source p.text
  fragment {p : Path} (h : guard (.fragment p) = false) : source p.text
  named {name text : String} (h : guard (.variable name text) = false) :
    source (Surroundings.textName name)

/-- If the failure is a reading error, it names a line, and no text but those in `source`. -/
def Failure.Told (source : String → Prop) (f : Failure) : Prop :=
  ∀ d, f = .diagnostic d → 1 ≤ d.line ∧ ∀ s ∈ d.source, source s

/-- If the failure is a reading error, it names a line and a text in `source`. -/
def Failure.Placed (source : String → Prop) (f : Failure) : Prop :=
  ∀ d, f = .diagnostic d → 1 ≤ d.line ∧ ∃ s ∈ d.source, source s

namespace Failure

variable {source : String → Prop}

theorem Placed.told {f : Failure} (h : f.Placed source) : f.Told source := fun d hd => by
  obtain ⟨hline, s, hs, hsource⟩ := h d hd
  exact ⟨hline, fun s' hs' => Option.some.inj (hs.symm.trans hs') ▸ hsource⟩

theorem Told.within {f : Failure} {name : String} (hn : source name) (h : f.Told source) :
    (f.within name).Placed source := fun d hd => by
  cases f with
  | diagnostic d' =>
    cases hd
    obtain ⟨hline, hsource⟩ := h d' rfl
    refine ⟨hline, _, rfl, ?_⟩
    cases hs : d'.source with
    | none => exact hn
    | some s => exact hsource s hs
  | _ => contradiction

theorem placed_inText {cause : Cause} {l : Int} {name : String} (hl : 1 ≤ l)
    (hn : source name) : (inText cause l name).Placed source := fun d hd => by
  cases hd
  exact ⟨hl, _, rfl, hn⟩

theorem told_unplaced {cause : Cause} {l : Int} (hl : 1 ≤ l) :
    (unplaced cause l).Told source := fun d hd => by
  cases hd
  exact ⟨hl, fun _ hs => by contradiction⟩

/-- The faults of a text are placed in it. -/
theorem placed_lexed {name : String} (hn : source name) (text : String) :
    ∀ f ∈ (Lexer.lex 1 text.toList).fault, (f.failure name).Placed source := fun f hf => by
  obtain rfl | ⟨cause, l, rfl, hl⟩ := (Lexer.lex_lines (Int.le_refl 1)).2 f hf
  · exact fun d hd => by contradiction
  · exact placed_inText hl hn

end Failure

namespace Regime

variable {guard : Guard} {source : String → Prop}

/-- Reading errors are told by lines and by names in `source`. -/
def located (setup : Setup) (hguard : guard.Admits source) : Regime guard setup where
  line l := 1 ≤ l
  source := source
  value ts := ∀ t ∈ ts, t.symbol.isMacro = false ∧ 1 ≤ t.line
  entry _ := Entry.Told (1 ≤ ·)
  fails := Failure.Told source
  placed := Failure.Placed source
  line_after h := by split <;> omega
  weaken := Failure.Placed.told
  stopped h d hd := by
    cases h.1.symm.trans hd
  within := Failure.Told.within
  inText := Failure.placed_inText
  unplaced := Failure.told_unplaced
  keyword ht hg hk hw d hd := by contradiction
  copying hg hl hf := by
    obtain ⟨h, hh, hfail⟩ := List.exists_of_findSome?_eq_some hf
    obtain rfl | ⟨why, rfl⟩ := Heading.failure?_eq_some hfail
    · exact Failure.told_unplaced (hl h hh)
    · exact fun d hd => by contradiction
  removing hg hf d hd := by
    obtain ⟨why, rfl⟩ := Removal.readAll_eq_some hf
    contradiction
  searching hg hf d hd := by
    obtain rfl := Files.isFile_eq_error hf
    contradiction
  opened hg hp := ⟨hguard.file hg, (Lexer.lex_lines (Int.le_refl 1)).1,
    Failure.placed_lexed (hguard.file hg) _⟩
  nothing := List.forall_mem_nil _
  lines h := h.1
  primitive hl hts := Entry.told_primitive.mpr ⟨hl, hts⟩
  dictionary hl hn hes := Entry.told_dictionary.mpr ⟨hl, hes⟩
  valued hp := (Entry.told_primitive.mp hp).2
  inner hd := (Entry.told_dictionary.mp hd).2
  remade hd hl hes := Entry.told_dictionary.mpr ⟨hl, hes⟩
  copies hg hes e he := (hes e he).elim fun _ h => h

theorem literal_located (setup : Setup) (hguard : guard.Admits source) :
    (located setup hguard).Literal where
  value_iff := Iff.rfl
  named hg := ⟨hguard.named hg, fun f hf =>
    (Failure.placed_lexed (hguard.named hg) _ f hf).told⟩
  opened hg hp := ⟨hguard.fragment hg, (Lexer.lex_lines (Int.le_refl 1)).1,
    Failure.placed_lexed (hguard.fragment hg) _⟩
  computing hg hc hn d hd := by contradiction

theorem knows_located (setup : Setup) (hguard : guard.Admits source) (name text : String)
    (hn : source name) : (located setup hguard).Knows (.ofText name text) :=
  .ofText hn (Lexer.lex_lines (Int.le_refl 1)).1 (Failure.placed_lexed hn text)

end Regime

/-- Nothing is guarded against. -/
def Guard.nothing : Guard := fun _ => false

/-- A guard against a text of the name: a file that is included, or what the environment has for a
name. -/
def Guard.naming (source : String) : Guard
  | .file p | .fragment p => p.text == source
  | .variable name _ => Surroundings.textName name == source
  | _ => false

/-- The reading error of a text names a line and a text: the one that is read, a file that this read
includes, or a text of the environment that it expands. -/
def Setup.Locates (setup : Setup) (name text : String) (d : Diagnostic) : Prop :=
  1 ≤ d.line ∧ ∃ s, d.source = some s ∧
    (s = name ∨ setup.ComesTo (Guard.naming s) (.ofText name text))

namespace Reader

variable {setup : Setup}

theorem ofText_located {name text : String} {d : Diagnostic}
    (h : (ofText setup text name).1 = .error (.diagnostic d)) : setup.Locates name text d := by
  -- Nothing is guarded against, so the read is not stopped: the error has a line and a text.
  have hopen : Guard.nothing.Admits fun _ => True :=
    ⟨fun _ => trivial, fun _ => trivial, fun _ => trivial⟩
  have hplaced := Regime.guarded (Regime.literal_located setup hopen).expands
    (Regime.knows_located setup hopen name text trivial)
  have hunguarded : (Guarded.read Guard.nothing setup (.ofText name text)).1 =
      (ofText setup text name).1 := Guarded.read_unguarded fun _ => rfl
  rw [hunguarded, h] at hplaced
  obtain _ | hplaced := hplaced
  obtain ⟨hline, s, hs, -⟩ := hplaced d rfl
  refine ⟨hline, s, hs, Classical.or_iff_not_imp_right.mpr fun hcomes => ?_⟩
  -- A read that does not come to that text tells its errors by other names.
  have hother : (Guard.naming s).Admits fun other => other = name ∨ other ≠ s :=
    ⟨fun h => .inr (by simpa [Guard.naming] using h), fun h => .inr (by simpa [Guard.naming] using h),
      fun h => .inr (by simpa [Guard.naming] using h)⟩
  have hplaced := Regime.read (Regime.literal_located setup hother).expands
    (Regime.knows_located setup hother name text (.inl rfl)) hcomes
  rw [← ofText, h] at hplaced
  obtain _ | hplaced := hplaced
  obtain ⟨-, s', hs', hsource⟩ := hplaced d rfl
  cases hs.symm.trans hs'
  exact hsource.resolve_right fun hne => hne rfl

/-- Every reading error is placed: in the text or file that is read, in a file that the read
includes or in a text of the environment that it expands. -/
theorem error_located (setup : Setup) :
    (∀ name text d, (ofText setup text name).1 = .error (.diagnostic d) →
      setup.Locates name text d) ∧
    ∀ path d, (ofFile setup path).1 = .error (.diagnostic d) →
      ∃ text, setup.files.readText (Path.ofString path) = .ok text ∧
        setup.Locates (Path.ofString path).text text d := by
  refine ⟨fun name text d => ofText_located, fun path d h => ?_⟩
  unfold ofFile at h
  dsimp only at h
  split at h
  · next text htext => exact ⟨text, htext, ofText_located h⟩
  · next f htext =>
    cases h
    obtain ⟨why, hf⟩ := Files.readText_eq_error htext
    contradiction

/-- A reference to a text of the environment that names no directive. -/
theorem error_located_environment :
    (ofText (environmentSetup [("X", "#nope")]) "a $X;" "t").1 =
        .error (.diagnostic ⟨.unknownDirective "nope", 1, some "$X"⟩) ∧
      (environmentSetup [("X", "#nope")]).Locates "t" "a $X;" ⟨.unknownDirective "nope", 1, some "$X"⟩ := by
  have hread : (ofText (environmentSetup [("X", "#nope")]) "a $X;" "t").1 =
      .error (.diagnostic ⟨.unknownDirective "nope", 1, some "$X"⟩) := by
    cbv
  exact ⟨hread, (error_located _).1 _ _ _ hread⟩

end Reader

end CaseDict
