import CaseDict.Directive
import CaseDict.Proofs.Values
import CaseDict.Proofs.Writing
/-! # What a text can say

The lexer hands out legible symbols: each word is one to the lexer, and no number is too long. A
value is legible if its symbols are and stand for themselves, and if its brackets nest; an entry is
if all values in it are. That is nearly what is read back after it was written: brackets in words,
infinite numbers, keywords, and a brace at the beginning of a value are left aside. -/

namespace CaseDict

open Lexer

/-! ### Symbols -/

namespace Symbol

/-- Words are words to the lexer, and numbers are not too long. -/
def Legible : Symbol → Prop
  | .word w => IsWord w
  | .number n => n.writable = true
  | _ => True

/-- The symbol is a directive that reads a file. -/
def Includes (r : Registry) (s : Symbol) : Prop :=
  ∃ name optional, s = .directive name ∧ r.find? name = some (.includeFile optional)

theorem Legible.writable {s : Symbol} (h : s.Legible) (hm : s.isMacro = false)
    (hw : ∀ w, s = .word w → IsBalanced w) (hf : ∀ x, s = .number (.float x) → x.isFinite = true) :
    s.Writable := by
  cases s with
  | word w => exact ⟨h, hw w rfl⟩
  | number n => exact ⟨h, fun x hx => hf x (hx ▸ rfl)⟩
  | reference | directive => contradiction
  | _ => trivial

end Symbol

namespace Lexer

theorem legible_of_nextStep {line : Int} {cs : List Char} {s : Step}
    (h : nextStep line cs = .ok (some s)) : s.token.symbol.Legible := by
  obtain ⟨line', c, rest, -, hg, hl⟩ := nextStep_eq_some h
  cases hs : s.token.symbol with
  | word w => exact isWord_of_lexeme hg hl hs
  | number n =>
    rcases lexeme_cases hl with ⟨-, hk⟩ | ⟨-, hn⟩
    · rw [hs, classify] at hk
      split at hk
      · next hr => exact Number.writable_of_read (hr.trans (by simpa using hk))
      · contradiction
      · simp at hk
    · exact absurd hs (hn n)
  | _ => trivial

/-- The symbols of a text are legible. -/
theorem legible_lex (line : Int) (cs : List Char) :
    ∀ t ∈ (lex line cs).tokens, t.symbol.Legible := by
  induction line, cs using lex.induct with
  | case1 line cs f h => simp [lex_of_fault h]
  | case2 line cs h => simp [lex_of_end h]
  | case3 line cs s h ih =>
    rw [lex_of_nextStep h]
    exact List.forall_mem_cons.mpr ⟨legible_of_nextStep h, ih⟩

end Lexer

/-! ### Values -/

/-- The tokens of a value are legible, and their brackets nest. -/
structure Token.AllLegible (ts : List Token) : Prop where
  symbols : ∀ t ∈ ts, t.symbol.Legible
  nested : Grammar.Nested false ts

theorem Token.AllLegible.nil : AllLegible [] := ⟨by simp, .nil⟩

theorem Lexer.isWord_switch {w : String} (hw : w = "true" ∨ w = "false") : IsWord w := by
  rw [isWord_iff]
  rcases hw with rfl | rfl
  · exact ⟨'t', ['r', 'u', 'e'], rfl, by decide⟩
  · exact ⟨'f', ['a', 'l', 's', 'e'], rfl, by decide⟩

theorem Number.writable_negate {n : Number} (h : n.writable = true) : n.negate.writable = true := by
  cases n with
  | int n => simpa [Number.negate, Number.writable] using h
  | float x => rfl

theorem Token.AllLegible.singleton {t : Token} (h : t.symbol.Legible) (ha : t.symbol.isAtom false) :
    AllLegible [t] := ⟨by simpa using h, .atom ha .nil⟩

/-! ### Entries -/

namespace Entry

/-- All values in the entry are legible. -/
abbrev Legible (e : Entry) : Prop := e.Carries Token.AllLegible

/-- All entries are legible. -/
abbrev AllLegible (es : List Entry) : Prop := ∀ e ∈ es, e.Legible

mutual

theorem writable_iff : ∀ {e : Entry}, e.Writable ↔
    (∀ h ∈ e.headings, h.Writable) ∧ ∀ v ∈ e.values, Token.AllWritable v
  | .primitive h ts => by simp [Entry.Writable, headings, values]
  | .dictionary h es => by
    simp only [Entry.Writable, headings, values, List.forall_mem_cons, allWritable_iff, and_assoc]

/-- Entries are read back if their headings and values are. -/
theorem allWritable_iff : ∀ {es : List Entry}, AllWritable es ↔
    (∀ h ∈ headingsOf es, h.Writable) ∧ ∀ v ∈ valuesOf es, Token.AllWritable v
  | [] => by simp [AllWritable, headingsOf, valuesOf]
  | e :: es => by
    simp only [AllWritable, headingsOf, valuesOf, List.forall_mem_append, writable_iff,
      allWritable_iff]
    exact and_and_and_comm

end

end Entry

end CaseDict
