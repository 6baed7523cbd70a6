import CaseDict.Lexer
/-! # Input of a read

What is left to read of a text: its tokens, and the fault that ends them. Reading a token leaves
less input, which is why every read ends. -/

namespace CaseDict

structure Input where
  /-- The name of the text. -/
  name : String
  tokens : List Token
  /-- What goes wrong after the tokens. -/
  fault : Option Failure := none
  /-- The line of the last token read. -/
  line : Int := 0

namespace Input

def ofText (name text : String) (firstLine : Int := 1) : Input :=
  let lexed := Lexer.lex firstLine text.toList
  { name, tokens := lexed.tokens, fault := lexed.fault.map (·.failure name) }

def ofTokens (name : String) (tokens : List Token) : Input := { name, tokens }

/-- How many tokens are left. -/
def size (i : Input) : Nat := i.tokens.length

/-- Input that is left when `i` was read on. -/
structure Rest (i : Input) where
  input : Input
  le : input.size ≤ i.size

/-- Input that is left when something of `i` was read. -/
structure Less (i : Input) where
  input : Input
  lt : input.size < i.size

variable {i : Input}

def Less.toRest (r : i.Less) : i.Rest := ⟨r.input, Nat.le_of_lt r.lt⟩

/-- Reading on from what is left. -/
def Rest.onward (r : i.Rest) (s : r.input.Rest) : i.Rest := ⟨s.input, Nat.le_trans s.le r.le⟩

def Less.onward (r : i.Less) (s : r.input.Rest) : i.Less := ⟨s.input, Nat.lt_of_le_of_lt s.le r.lt⟩

/-- The input as if nothing had been read. -/
def unread (i : Input) : i.Rest := ⟨i, Nat.le_refl _⟩

/-- The input after its first token `t`. -/
def after (i : Input) (t : Token) (ts : List Token) : Input :=
  { i with tokens := ts, line := if 0 ≤ t.line then t.line else i.line }

theorem size_after_lt {i : Input} {t : Token} {ts : List Token} (h : i.tokens = t :: ts) :
    (i.after t ts).size < i.size := by simp [after, size, h]

/-- The next token and the input after it; none at the end. -/
def next (i : Input) : Except Failure (Option (Token × i.Less)) :=
  match h : i.tokens with
  | t :: ts => .ok (some (t, ⟨i.after t ts, size_after_lt h⟩))
  | [] =>
    match i.fault with
    | some f => .error f
    | none => .ok none

/-- The next token, which must exist. -/
def expect (i : Input) (what : String) : Except Failure (Token × i.Less) := do
  match ← i.next with
  | some found => return found
  | none => throw (.inText (.endOfInput what) i.line i.name)

end Input

end CaseDict
