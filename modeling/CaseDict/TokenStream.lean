import CaseDict.Lexer
/-! # Token streams

A stream hands out the tokens of a source one by one, takes one token back, and remembers the line
of the last token it handed out. The source is a text that is lexed on demand (`Scanner`) or a list
of tokens; both are a `TokenSource`, which promises that it grows smaller with every token, so that
a stream can be read to its end. -/

namespace CaseDict

/-- Something that yields tokens until it is exhausted. -/
class TokenSource (σ : Type) where
  /-- The next token, none at the end, and the source after it. -/
  next : σ → Except Failure (Option Token) × σ
  /-- How much is left. -/
  size : σ → Nat
  size_next {s : σ} {t : Token} : (next s).1 = .ok (some t) → size (next s).2 < size s

instance : TokenSource (List Token) where
  next
    | [] => (.ok none, [])
    | t :: ts => (.ok (some t), ts)
  size := List.length
  size_next {s t} h := by cases s <;> simp_all

/-- A text that is lexed as far as tokens are asked for. -/
structure Scanner where
  /-- The text's name. -/
  name : String
  /-- The line reached. -/
  line : Int
  /-- The text left; nothing after a fault. -/
  rest : List Char

namespace Scanner

def ofText (text name : String) (firstLine : Int := 1) : Scanner := ⟨name, firstLine, text.toList⟩

def next (s : Scanner) : Except Failure (Option Token) × Scanner :=
  match Lexer.nextStep s.line s.rest with
  | .error f => (.error (f.failure s.name), { s with rest := [] })
  | .ok none => (.ok none, { s with rest := [] })
  | .ok (some step) => (.ok (some step.token), { s with line := step.line, rest := step.rest })

instance : TokenSource Scanner where
  next := next
  size s := s.rest.length
  size_next {s t} h := by
    unfold next at h ⊢
    split at h <;> simp_all
    exact Lexer.nextStep_length_lt ‹_›

end Scanner

/-- A source of tokens with a place for one token taken back. -/
structure TokenStream (σ : Type) where
  name : String
  source : σ
  /-- The line of the last token read that has one. -/
  line : Int := 0
  slot : Option Token := none

namespace TokenStream

variable {σ : Type} [TokenSource σ]

/-- The stream after `t` was handed out. -/
def mark (s : TokenStream σ) (t : Token) : TokenStream σ :=
  if 0 ≤ t.line then { s with line := t.line } else s

/-- The next token; none at the end. -/
def read (s : TokenStream σ) : Except Failure (Option Token) × TokenStream σ :=
  match s.slot with
  | some t => (.ok (some t), { s with slot := none }.mark t)
  | none =>
    let (result, source) := TokenSource.next s.source
    let s := { s with source }
    match result with
    | .ok (some t) => (.ok (some t), s.mark t)
    | .ok none => (.ok none, s)
    | .error f => (.error f, s)

/-- The next token, which must exist. -/
def expect (s : TokenStream σ) (what : String) : Except Failure Token × TokenStream σ :=
  match s.read with
  | (.ok (some t), s) => (.ok t, s)
  | (.ok none, s) => (.error (.inText (.endOfInput what) s.line s.name), s)
  | (.error f, s) => (.error f, s)

/-- Takes a token back, or nothing, if no token is held already. -/
def pushBack (s : TokenStream σ) (t : Option Token) : Except Failure (TokenStream σ) :=
  if s.slot.isSome then .error (.putBackTwice s.name) else .ok { s with slot := t }

/-- Whether no token is left. -/
def atEnd (s : TokenStream σ) : Except Failure Bool × TokenStream σ :=
  match s.read with
  | (.ok none, s) => (.ok true, s)
  | (.ok (some t), s) => (.ok false, { s with slot := some t })
  | (.error f, s) => (.error f, s)

/-- How many reads the stream allows at most. -/
def size (s : TokenStream σ) : Nat :=
  TokenSource.size s.source + if s.slot.isSome then 1 else 0

theorem size_mark (s : TokenStream σ) (t : Token) : (s.mark t).size = s.size := by
  unfold mark
  split <;> rfl

theorem size_read {s : TokenStream σ} {t : Token} (h : s.read.1 = .ok (some t)) :
    s.read.2.size < s.size := by
  cases hs : s.slot with
  | some held =>
    simp only [read, hs] at h ⊢
    rw [size_mark]
    simp [size, hs]
  | none =>
    simp only [read, hs] at h ⊢
    rcases hn : TokenSource.next s.source with ⟨result, source⟩
    simp only [hn] at h ⊢
    match result with
    | .ok (some found) =>
      have := TokenSource.size_next (s := s.source) (t := found) (by rw [hn])
      rw [hn] at this
      simp only [size_mark]
      simpa [size, hs] using this
    | .ok none => simp at h
    | .error f => simp at h

/-- All tokens left. -/
def rest (s : TokenStream σ) : Except Failure (List Token) × TokenStream σ :=
  match _h : s.read with
  | (.error f, s) => (.error f, s)
  | (.ok none, s) => (.ok [], s)
  | (.ok (some t), s) =>
    let (more, s) := s.rest
    (more.map (t :: ·), s)
termination_by s.size
decreasing_by
  have := size_read (s := _) (t := t) (by rw [_h])
  rwa [_h] at this

end TokenStream

end CaseDict
