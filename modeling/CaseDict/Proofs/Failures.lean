import CaseDict.Expansion
import CaseDict.Removal
/-! # Failures by their class

Only placing an entry, and looking whether it can be placed, tells a redefinition
(`Failure.isDuplicate`): no failure of lexing, of looking up, of the registry, of a pattern or of
the file system does. -/

namespace CaseDict

open Expansion Lexer

namespace Failure

/-- The class of a failure that is a reading error. -/
def class? : Failure → Option ErrorClass
  | .diagnostic d => some d.cause.errorClass
  | _ => none

@[simp] theorem class?_within (name : String) (f : Failure) :
    (f.within name).class? = f.class? := by cases f <;> rfl

/-- The failure is that of a redefinition. -/
def isDuplicate : Failure → Bool
  | .diagnostic ⟨.duplicate .., _, _⟩ => true
  | _ => false

theorem isDuplicate_iff {f : Failure} : f.isDuplicate = true ↔ f.class? = some .duplicate := by
  cases f with
  | diagnostic d =>
    obtain ⟨cause, line, source⟩ := d
    cases cause <;> simp [isDuplicate, class?, Cause.errorClass]
  | _ => simp [isDuplicate, class?]

@[simp] theorem isDuplicate_within (name : String) (f : Failure) :
    (f.within name).isDuplicate = f.isDuplicate := by
  rw [Bool.eq_iff_iff, isDuplicate_iff, isDuplicate_iff, class?_within]

end Failure

variable {name : String} {line : Int} {f : Failure}

theorem isDuplicate_of_track {opened : List Opening} {t : Token}
    (h : track opened t name = .error f) : f.isDuplicate = false := by
  unfold track close at h
  split at h
  · contradiction
  · split at h
    · cases h
      rfl
    · split at h
      · contradiction
      · cases h
        rfl
  · contradiction

theorem Registry.isDuplicate_of_get {r : Registry} {source : Option String}
    (h : r.get name line source = .error f) : f.isDuplicate = false := by
  unfold get at h
  split at h
  · contradiction
  · cases h
    rfl

theorem Heading.isDuplicate_of_failure? {h : Heading} (hf : h.failure? = some f) :
    f.isDuplicate = false := by
  unfold failure? at hf
  split at hf
  · obtain ⟨why, -, rfl⟩ := Option.map_eq_some_iff.mp hf
    split <;> rfl
  · contradiction

theorem Heading.isDuplicate_of_checked {h : Heading} (hf : h.checked = .error f) :
    f.isDuplicate = false := by
  unfold checked at hf
  split at hf
  · contradiction
  · next hfail =>
    cases hf
    exact isDuplicate_of_failure? hfail

theorem Removal.isDuplicate_of_readAll {names : List (String × Bool)} {what : List Removal}
    (h : readAll names = (what, some f)) : f.isDuplicate = false := by
  induction names generalizing what with
  | nil => cases h
  | cons n names ih =>
    obtain ⟨name, isPattern⟩ := n
    unfold readAll at h
    split at h
    · next hread =>
      cases h
      unfold Removal.read at hread
      split at hread
      · split at hread
        · contradiction
        · cases hread
          rfl
      · contradiction
    · obtain ⟨-, h⟩ := Prod.mk.inj h
      exact ih (Prod.ext rfl h)

/-! ### Files -/

namespace Files

variable {fs : Files} {p : Path}

theorem isDuplicate_of_isFile (h : fs.isFile p = .error f) : f.isDuplicate = false := by
  unfold isFile at h
  split at h
  · contradiction
  · cases h
    rfl
  · contradiction

theorem isDuplicate_of_readText (h : fs.readText p = .error f) : f.isDuplicate = false := by
  unfold readText at h
  split at h
  · contradiction
  · cases h
    rfl
  · cases h
    rfl

end Files

/-! ### Texts -/

namespace Lexer

variable {cs : List Char} {fault : LexFault}

theorem skipGap_eq_error {gap : Gap} (h : skipGap gap line cs = .error fault) :
    ∃ start, fault = .misplaced .unterminatedComment start := by
  fun_induction skipGap gap line cs <;> grind

theorem isDuplicate_of_word {c : Char} (h : word line c cs = .error fault) :
    (fault.failure name).isDuplicate = false := by
  unfold word at h
  cases hc : classify (c :: (splitWord 0 cs).1) with
  | ok s => simp [hc, Except.map] at h
  | error fault' =>
    simp only [hc, Except.map] at h
    cases h
    unfold classify at hc
    split at hc
    · contradiction
    · cases hc
      rfl
    · contradiction

theorem isDuplicate_of_reference (h : reference line cs = .error fault) :
    (fault.failure name).isDuplicate = false := by
  unfold reference at h
  split at h
  · split at h
    · split at h
      · cases h
        rfl
      · contradiction
    · cases h
      rfl
    · cases h
      rfl
  · split at h
    · cases h
      rfl
    · contradiction

theorem isDuplicate_of_lexeme {c : Char} (h : lexeme line c cs = .error fault) :
    (fault.failure name).isDuplicate = false := by
  unfold lexeme at h
  split at h
  · unfold quoted at h
    split at h
    · contradiction
    · cases h
      rfl
  split at h
  · exact isDuplicate_of_reference h
  split at h
  · unfold directive at h
    split at h
    · cases h
      rfl
    · contradiction
  · split at h
    · contradiction
    · exact isDuplicate_of_word h

theorem isDuplicate_of_nextStep (h : nextStep line cs = .error fault) :
    (fault.failure name).isDuplicate = false := by
  unfold nextStep at h
  split at h
  · next hgap =>
    cases h
    obtain ⟨start, rfl⟩ := skipGap_eq_error hgap
    rfl
  · contradiction
  · next line' c rest _ =>
    cases hl : lexeme line' c rest with
    | ok s => simp [hl, Except.map] at h
    | error fault' =>
      simp only [hl, Except.map] at h
      cases h
      exact isDuplicate_of_lexeme hl

theorem isDuplicate_of_lex (h : (lex line cs).fault = some fault) :
    (fault.failure name).isDuplicate = false := by
  induction line, cs using lex.induct with
  | case1 line cs fault' hn =>
    have hlex : lex line cs = ⟨[], some fault'⟩ := by
      rw [lex.eq_def]
      split <;> simp_all
    rw [hlex] at h
    cases h
    exact isDuplicate_of_nextStep hn
  | case2 line cs hn =>
    rw [lex.eq_def] at h
    split at h <;> simp_all
  | case3 line cs s hn ih =>
    rw [lex.eq_def] at h
    split at h <;> simp_all

theorem isDuplicate_of_tokens {text : String} (h : tokens name text line = .error f) :
    f.isDuplicate = false := by
  unfold tokens at h
  split at h
  · contradiction
  · next hlex =>
    cases h
    exact isDuplicate_of_lex (congrArg Lexed.fault hlex)

end Lexer

theorem Input.isDuplicate_of_fault {text : String} (h : f ∈ (Input.ofText name text line).fault) :
    f.isDuplicate = false := by
  obtain ⟨fault, hfault, rfl⟩ := Option.map_eq_some_iff.mp h
  exact Lexer.isDuplicate_of_lex hfault

/-! ### References -/

namespace Surroundings

variable {s : Surroundings}

theorem isDuplicate_of_environmentTokens {text : String}
    (h : environmentTokens name text line = .error f) : f.isDuplicate = false := by
  unfold environmentTokens at h
  cases ht : Lexer.tokens (textName name) text with
  | error f' =>
    rw [ht] at h
    cases h
    exact Lexer.isDuplicate_of_tokens ht
  | ok ts =>
    rw [ht] at h
    replace h : (if ts.any (·.symbol == .terminator) then _ else _) = Except.error f := h
    split at h
    · cases h
      rfl
    · contradiction

theorem isDuplicate_of_text (h : s.text line name = .error f) : f.isDuplicate = false := by
  unfold text at h
  split at h
  · contradiction
  · cases h
    rfl
  · split at h
    · contradiction
    · cases h
      rfl

theorem isDuplicate_of_tokens (h : s.tokens name line = .error f) : f.isDuplicate = false := by
  unfold tokens at h
  split at h
  · contradiction
  · cases h
    rfl
  · split at h
    · exact isDuplicate_of_environmentTokens h
    · cases h
      rfl

end Surroundings

end CaseDict
