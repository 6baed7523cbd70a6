import CaseDict.Placement
import CaseDict.Input
/-! # The grammar of dictionaries

The tokens of a dictionary without references and directives, and the entries they stand for:
a body is a sequence of statements and spare terminators, and a statement is a keyword with nothing,
with a body between braces, or with a value. In a whole document the last statement may be left
without its terminator. -/

namespace CaseDict

/-- The symbol stands for itself and is no bracket; a terminator only `inside` of brackets. -/
def Symbol.isAtom (inside : Bool) : Symbol → Bool
  | .word _ | .quoted _ | .number _ | .comma => true
  | .terminator => inside
  | .opener _ | .closer _ | .reference _ | .directive _ => false

/-- The line reached after tokens, those without a line not counted. -/
def lineAfter (line : Int) (ts : List Token) : Int :=
  ts.foldl (fun line t => if 0 ≤ t.line then t.line else line) line

theorem lineAfter_append (line : Int) (ts us : List Token) :
    lineAfter line (ts ++ us) = lineAfter (lineAfter line ts) us := List.foldl_append ..

theorem lineAfter_cons (line : Int) (t : Token) (ts : List Token) :
    lineAfter line (t :: ts) = lineAfter (lineAfter line [t]) ts := rfl

/-- The failure is one of syntax: a keyword or a bracket out of place, or too deep a nesting. -/
def Failure.isSyntactic : Failure → Bool
  | .diagnostic d => d.cause.errorClass ∈ [.parse, .mismatchedScope, .nestingExceeded]
  | _ => false

@[simp] theorem Failure.isSyntactic_within (name : String) (f : Failure) :
    (f.within name).isSyntactic = f.isSyntactic := by cases f <;> rfl

namespace Grammar

/-- The brackets of the tokens nest and are closed, and terminators stand only in brackets. -/
inductive Nested : Bool → List Token → Prop
  | nil {inside : Bool} : Nested inside []
  | atom {inside : Bool} {t : Token} {ts : List Token} (ht : t.symbol.isAtom inside)
      (hts : Nested inside ts) : Nested inside (t :: ts)
  | group {inside : Bool} {b : Bracket} {line line' : Int} {us ts : List Token}
      (hus : Nested true us) (hts : Nested inside ts) :
      Nested inside (⟨.opener b, line⟩ :: us ++ ⟨.closer b, line'⟩ :: ts)

/-- The tokens of a value: some tokens, nested, the first of which does not begin a dictionary. -/
structure IsValue (ts : List Token) : Prop where
  nonempty : ts ≠ []
  unbraced : ∀ t ∈ ts.head?, t.symbol ≠ .opener .brace
  nested : Nested false ts

/-- The heading that a token begins: a word is a plain keyword, and quoted text a pattern if it is a
regular expression. -/
def heading? (t : Token) (endLine : Int) : Option Heading :=
  match t.symbol with
  | .word s => some ⟨s, false, t.line, endLine⟩
  | .quoted s => if Pattern.fault? s = none then some ⟨s, true, t.line, endLine⟩ else none
  | _ => none

mutual

/-- The tokens are a statement at a level of nesting below `limit`, and stand for the entry. -/
inductive Statement (limit : Int) : Nat → List Token → Entry → Prop
  | bare {n : Nat} {k : Token} {line : Int} {h : Heading} (hk : heading? k line = some h) :
      Statement limit n [k, ⟨.terminator, line⟩] (.primitive h [])
  | dictionary {n : Nat} {k : Token} {line line' : Int} {h : Heading} {ts : List Token}
      {es : List Entry} (hk : heading? k line' = some h) (hn : (n : Int) < limit)
      (hts : Body limit (n + 1) ts es) :
      Statement limit n (k :: ⟨.opener .brace, line⟩ :: ts ++ [⟨.closer .brace, line'⟩])
        (.dictionary h es)
  | value {n : Nat} {k : Token} {line : Int} {h : Heading} {vs : List Token}
      (hk : heading? k line = some h) (hvs : IsValue vs) :
      Statement limit n (k :: vs ++ [⟨.terminator, line⟩]) (.primitive h vs)

/-- The tokens are statements and spare terminators, and stand for the entries. -/
inductive Body (limit : Int) : Nat → List Token → List Entry → Prop
  | nil {n : Nat} : Body limit n [] []
  | spare {n : Nat} {line : Int} {ts : List Token} {es : List Entry} (hts : Body limit n ts es) :
      Body limit n (⟨.terminator, line⟩ :: ts) es
  | cons {n : Nat} {ss ts : List Token} {e : Entry} {es : List Entry}
      (hss : Statement limit n ss e) (hts : Body limit n ts es) :
      Body limit n (ss ++ ts) (e :: es)

end

/-- The tokens after a line, at a level of nesting, are a whole document that stands for the
entries. -/
inductive Document (limit : Int) (n : Nat) (line : Int) : List Token → List Entry → Prop
  | closed {ts : List Token} {es : List Entry} (hts : Body limit n ts es) :
      Document limit n line ts es
  | bare {ts : List Token} {es : List Entry} {k : Token} {h : Heading}
      (hts : Body limit n ts es) (hk : heading? k k.line = some h) :
      Document limit n line (ts ++ [k]) (es ++ [.primitive h []])
  | value {ts : List Token} {es : List Entry} {k : Token} {h : Heading} {vs : List Token}
      (hts : Body limit n ts es) (hk : heading? k (lineAfter line (ts ++ k :: vs)) = some h)
      (hvs : IsValue vs) : Document limit n line (ts ++ k :: vs) (es ++ [.primitive h vs])

/-! ### Nesting -/

theorem isMacro_of_isAtom {inside : Bool} {s : Symbol} (h : s.isAtom inside) :
    s.isMacro = false := by
  cases s <;> first | rfl | simp [Symbol.isAtom] at h

theorem isAtom_of_isAtom {inside inside' : Bool} {s : Symbol} (h : s.isAtom inside)
    (hi : inside = true → inside' = true) : s.isAtom inside' := by
  cases s <;> simp_all [Symbol.isAtom]

section Nesting

variable {inside : Bool} {ts us : List Token}

theorem Nested.append (h : Nested inside ts) (h' : Nested inside us) :
    Nested inside (ts ++ us) := by
  induction h with
  | nil => exact h'
  | atom ht hts ih => exact .atom ht (ih h')
  | group hus hts ih ih' =>
    rw [List.append_assoc, List.cons_append]
    exact .group hus (ih' h')

/-- Tokens that nest do so inside of brackets too. -/
theorem Nested.within (h : Nested inside ts) : Nested true ts := by
  induction h with
  | nil => exact .nil
  | atom ht hts ih => exact .atom (isAtom_of_isAtom ht fun _ => rfl) ih
  | group hus hts ih ih' => exact .group hus ih'

theorem Nested.isMacro (h : Nested inside ts) : ∀ t ∈ ts, t.symbol.isMacro = false := by
  induction h with
  | nil => simp
  | atom ht hts ih => exact List.forall_mem_cons.mpr ⟨isMacro_of_isAtom ht, ih⟩
  | group hus hts ih ih' =>
    refine List.forall_mem_append.mpr ⟨List.forall_mem_cons.mpr ⟨rfl, ih⟩, ?_⟩
    exact List.forall_mem_cons.mpr ⟨rfl, ih'⟩

end Nesting

/-! ### Putting derivations together -/

variable {limit : Int} {n : Nat}

theorem Statement.body {ts : List Token} {e : Entry} (h : Statement limit n ts e) :
    Body limit n ts [e] := by
  have := Body.cons h .nil
  rwa [List.append_nil] at this

theorem Body.append {ts us : List Token} {es es' : List Entry} :
    Body limit n ts es → Body limit n us es' → Body limit n (ts ++ us) (es ++ es')
  | .nil, h => h
  | .spare hts, h => .spare (hts.append h)
  | .cons hss hts, h => by
    rw [List.append_assoc, List.cons_append]
    exact .cons hss (hts.append h)

theorem Body.document {line : Int} {ts us : List Token} {es es' : List Entry}
    (hts : Body limit n ts es) (h : Document limit n (lineAfter line ts) us es') :
    Document limit n line (ts ++ us) (es ++ es') := by
  cases h with
  | closed hus => exact .closed (hts.append hus)
  | bare hus hk =>
    rw [← List.append_assoc, ← List.append_assoc]
    exact .bare (hts.append hus) hk
  | value hus hk hvs =>
    rw [← lineAfter_append, ← List.append_assoc] at hk
    rw [← List.append_assoc, ← List.append_assoc]
    exact .value (hts.append hus) hk hvs

/-! ### Keywords that are refused -/

/-- What may follow a keyword for the reader to look at it. -/
inductive Follows (limit : Int) (n : Nat) : List Token → Prop
  | ended : Follows limit n []
  | terminator {line : Int} {ts : List Token} : Follows limit n (⟨.terminator, line⟩ :: ts)
  | brace {line : Int} {ts : List Token} (hn : (n : Int) < limit) :
      Follows limit n (⟨.opener .brace, line⟩ :: ts)
  | lastValue {vs : List Token} (hvs : IsValue vs) : Follows limit n vs
  | value {vs ts : List Token} {line : Int} (hvs : IsValue vs) :
      Follows limit n (vs ++ ⟨.terminator, line⟩ :: ts)

/-- The reader comes to a keyword that is rejected as a regular expression for the reason `why`,
which no error of syntax describes. -/
inductive Rejects (limit : Int) (why : Pattern.Fault) : Nat → List Token → Prop
  | here {n : Nat} {k : String} {line : Int} {ts : List Token}
      (hk : Pattern.fault? k = some why) (hw : why ≠ .malformed) (hts : Follows limit n ts) :
      Rejects limit why n (⟨.quoted k, line⟩ :: ts)
  | inside {n : Nat} {k : Token} {line line' : Int} {h : Heading} {ts : List Token}
      (hk : heading? k line' = some h) (hn : (n : Int) < limit)
      (hts : Rejects limit why (n + 1) ts) :
      Rejects limit why n (k :: ⟨.opener .brace, line⟩ :: ts)
  | after {n : Nat} {ts us : List Token} {es : List Entry} (hts : Body limit n ts es)
      (hus : Rejects limit why n us) : Rejects limit why n (ts ++ us)

end Grammar

end CaseDict
