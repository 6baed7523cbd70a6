import CaseDict.TokenStream
import CaseDict.Proofs.Lexing
/-! # Streams of a text and of its tokens

A stream that lexes its text on demand cannot be told from one that replays the tokens of the whole
text: whatever is asked of the two, in whatever order, they answer alike and stand at the same line
(`converse_ofText`). A client asks for tokens, for the end and for all that is left, and puts back
tokens of its own or some it was given, also more than one and also at the end.

This holds of any two sources of which a relation is a bisimulation: what is asked for next is the
same of related sources and leaves related ones. Every request preserves that (`serve_related`), and
so does every run of requests (`converse_related`). A text that is lexed as far as a line is related
to the tokens that lexing the rest of it gives (`Scanner.bisimulation_holds`). -/

namespace CaseDict.TokenStream

/-! ### Requests and replies -/

/-- What a stream answers to a request. -/
inductive Answer
  | token (t : Option Token)
  | taken
  | ended (b : Bool)
  | tokens (ts : List Token)
  | failed (f : Failure)
  deriving DecidableEq

/-- An answer and the line at which the stream stands with it. -/
structure Reply where
  answer : Answer
  line : Int
  deriving DecidableEq

/-- What is asked of a stream. -/
inductive Request
  | read
  | expect (what : String)
  /-- Takes back a token, or nothing, that is picked by the replies so far, the newest one first. -/
  | pushBack (pick : List Reply → Option Token)
  | atEnd
  | rest

/-- The last token that was handed out by itself. -/
def lastToken : List Reply → Option Token
  | [] => none
  | ⟨.token t, _⟩ :: _ => t
  | _ :: replies => lastToken replies

section

variable {σ : Type} [TokenSource σ]

/-- What one request is answered after the replies so far, and the stream after it. -/
def serve (replies : List Reply) (s : TokenStream σ) : Request → Answer × TokenStream σ
  | .read =>
    match s.read with
    | (.ok t, s) => (.token t, s)
    | (.error f, s) => (.failed f, s)
  | .expect what =>
    match s.expect what with
    | (.ok t, s) => (.token (some t), s)
    | (.error f, s) => (.failed f, s)
  | .pushBack pick =>
    match s.pushBack (pick replies) with
    | .ok s => (.taken, s)
    | .error f => (.failed f, s)
  | .atEnd =>
    match s.atEnd with
    | (.ok b, s) => (.ended b, s)
    | (.error f, s) => (.failed f, s)
  | .rest =>
    match s.rest with
    | (.ok ts, s) => (.tokens ts, s)
    | (.error f, s) => (.failed f, s)

/-- The replies to all requests, the newest one first. -/
def converse (replies : List Reply) (s : TokenStream σ) : List Request → List Reply
  | [] => replies
  | r :: requests =>
    let (answer, s) := s.serve replies r
    converse (⟨answer, s.line⟩ :: replies) s requests

end

/-! ### Sources that yield the same -/

section

variable {σ τ : Type} {R : σ → τ → Prop}

/-- Streams of related sources that agree in everything else. -/
structure Related (R : σ → τ → Prop) (s : TokenStream σ) (t : TokenStream τ) : Prop where
  name : s.name = t.name
  line : s.line = t.line
  slot : s.slot = t.slot
  source : R s.source t.source

variable {s : TokenStream σ} {t : TokenStream τ}

theorem Related.mark (h : Related R s t) (k : Token) : Related R (s.mark k) (t.mark k) := by
  unfold TokenStream.mark
  split
  · exact { h with line := rfl }
  · exact h

theorem mark_eq (s : TokenStream σ) (k : Token) :
    ∃ line, s.mark k = ⟨s.name, s.source, line, s.slot⟩ := by
  unfold mark
  split <;> exact ⟨_, rfl⟩

theorem Related.withSlot (h : Related R s t) (k : Option Token) :
    Related R { s with slot := k } { t with slot := k } :=
  { h with slot := rfl }

/-- The same result, and related streams with it. -/
def Agree {α : Type} (R : σ → τ → Prop) (x : α × TokenStream σ) (y : α × TokenStream τ) : Prop :=
  ∃ a s t, x = (a, s) ∧ y = (a, t) ∧ Related R s t

variable [TokenSource σ] [TokenSource τ]

/-- Related sources yield the same next, and stay related. -/
def Bisimulation (R : σ → τ → Prop) : Prop :=
  ∀ s t, R s t → (TokenSource.next s).1 = (TokenSource.next t).1 ∧
    R (TokenSource.next s).2 (TokenSource.next t).2

theorem read_related (hR : Bisimulation R) (h : Related R s t) : Agree R s.read t.read := by
  unfold read
  rw [← h.slot]
  cases hslot : s.slot with
  | some held => exact ⟨_, _, _, rfl, rfl, (h.withSlot none).mark held⟩
  | none =>
    obtain ⟨hresult, hsource⟩ := hR _ _ h.source
    rcases hs : TokenSource.next s.source with ⟨result, s'⟩
    rcases ht : TokenSource.next t.source with ⟨result', t'⟩
    simp only [hs, ht] at hresult hsource ⊢
    subst hresult
    have hnext : Related R ⟨s.name, s', s.line, none⟩ ⟨t.name, t', t.line, none⟩ :=
      ⟨h.name, h.line, rfl, hsource⟩
    match result with
    | .ok (some k) => exact ⟨_, _, _, rfl, rfl, hnext.mark k⟩
    | .ok none => exact ⟨_, _, _, rfl, rfl, hnext⟩
    | .error f => exact ⟨_, _, _, rfl, rfl, hnext⟩

theorem expect_related (hR : Bisimulation R) (h : Related R s t) (what : String) :
    Agree R (s.expect what) (t.expect what) := by
  obtain ⟨result, s', t', hs, ht, h'⟩ := read_related hR h
  unfold expect
  rw [hs, ht]
  match result with
  | .ok (some k) => exact ⟨_, _, _, rfl, rfl, h'⟩
  | .ok none => exact ⟨_, _, _, rfl, by rw [h'.line, h'.name], h'⟩
  | .error f => exact ⟨_, _, _, rfl, rfl, h'⟩

theorem atEnd_related (hR : Bisimulation R) (h : Related R s t) : Agree R s.atEnd t.atEnd := by
  obtain ⟨result, s', t', hs, ht, h'⟩ := read_related hR h
  unfold atEnd
  rw [hs, ht]
  match result with
  | .ok (some k) => exact ⟨_, _, _, rfl, rfl, h'.withSlot (some k)⟩
  | .ok none => exact ⟨_, _, _, rfl, rfl, h'⟩
  | .error f => exact ⟨_, _, _, rfl, rfl, h'⟩

theorem rest_of_error {f : Failure} {s' : TokenStream σ} (h : s.read = (.error f, s')) :
    s.rest = (.error f, s') := by
  rw [rest.eq_def]
  split <;> simp_all

theorem rest_of_none {s' : TokenStream σ} (h : s.read = (.ok none, s')) :
    s.rest = (.ok [], s') := by
  rw [rest.eq_def]
  split <;> simp_all

theorem rest_of_some {k : Token} {s' : TokenStream σ} (h : s.read = (.ok (some k), s')) :
    s.rest = (s'.rest.1.map (k :: ·), s'.rest.2) := by
  rw [rest.eq_def]
  split <;> simp_all

/-- The induction is on what one of the streams may still hand out. -/
theorem rest_related (hR : Bisimulation R) (h : Related R s t) : Agree R s.rest t.rest := by
  induction hn : s.size using Nat.strongRecOn generalizing s t with
  | ind n ih =>
    obtain ⟨result, s', t', hs, ht, h'⟩ := read_related hR h
    match result with
    | .error f => exact ⟨_, _, _, rest_of_error hs, rest_of_error ht, h'⟩
    | .ok none => exact ⟨_, _, _, rest_of_none hs, rest_of_none ht, h'⟩
    | .ok (some k) =>
      have hlt : s'.size < n := by
        have := size_read (s := s) (t := k) (by rw [hs])
        rwa [hs, hn] at this
      obtain ⟨more, s'', t'', hs', ht', h''⟩ := ih _ hlt h' rfl
      rw [rest_of_some hs, rest_of_some ht, hs', ht']
      exact ⟨_, _, _, rfl, rfl, h''⟩

/-! ### Every request, and every run of requests -/

/-- Whatever is asked of related streams is answered alike and leaves them related. -/
theorem serve_related (hR : Bisimulation R) (h : Related R s t) (replies : List Reply)
    (r : Request) : Agree R (s.serve replies r) (t.serve replies r) := by
  cases r with
  | read =>
    obtain ⟨result, s', t', hs, ht, h'⟩ := read_related hR h
    rw [serve, serve, hs, ht]
    cases result <;> exact ⟨_, _, _, rfl, rfl, h'⟩
  | expect what =>
    obtain ⟨result, s', t', hs, ht, h'⟩ := expect_related hR h what
    rw [serve, serve, hs, ht]
    cases result <;> exact ⟨_, _, _, rfl, rfl, h'⟩
  | pushBack pick =>
    unfold serve pushBack
    have hpushed := h.withSlot (pick replies)
    rw [h.slot, h.name]
    cases t.slot with
    | some held => exact ⟨_, _, _, rfl, rfl, h⟩
    | none => exact ⟨_, _, _, by rw [← h.name]; rfl, rfl, hpushed⟩
  | atEnd =>
    obtain ⟨result, s', t', hs, ht, h'⟩ := atEnd_related hR h
    rw [serve, serve, hs, ht]
    cases result <;> exact ⟨_, _, _, rfl, rfl, h'⟩
  | rest =>
    obtain ⟨result, s', t', hs, ht, h'⟩ := rest_related hR h
    rw [serve, serve, hs, ht]
    cases result <;> exact ⟨_, _, _, rfl, rfl, h'⟩

theorem converse_related (hR : Bisimulation R) (h : Related R s t) (requests : List Request)
    (replies : List Reply) : converse replies s requests = converse replies t requests := by
  induction requests generalizing s t replies with
  | nil => rfl
  | cons r requests ih =>
    obtain ⟨answer, s', t', hs, ht, h'⟩ := serve_related hR h replies r
    rw [converse, converse, hs, ht]
    simp only [h'.line]
    exact ih h' _

end

end TokenStream

/-! ### A text and its tokens -/

namespace Scanner

/-- These are the tokens that the scanner will find, up to the end of the text. -/
def Holds (s : Scanner) (ts : List Token) : Prop := Lexer.lex s.line s.rest = ⟨ts, none⟩

theorem bisimulation_holds : TokenStream.Bisimulation Holds := by
  intro s ts h
  unfold Holds at h
  simp only [TokenSource.next, Scanner.next]
  cases hn : Lexer.nextStep s.line s.rest with
  | error f => simp [Lexer.lex_of_fault hn] at h
  | ok found =>
    cases found with
    | none =>
      obtain rfl : ts = [] := by simpa [Lexer.lex_of_end hn] using h.symm
      exact ⟨rfl, Lexer.lex_nil⟩
    | some step =>
      rw [Lexer.lex_of_nextStep hn] at h
      cases ts with
      | nil => simp at h
      | cons t ts =>
        simp only [Lexer.Lexed.mk.injEq, List.cons.injEq] at h
        obtain ⟨⟨rfl, hts⟩, hf⟩ := h
        exact ⟨rfl, by simp only [Holds, ← hts, ← hf]⟩

theorem holds_ofText {source text name : String} {line : Int} {ts : List Token}
    (h : Lexer.tokens source text line = .ok ts) : Holds (ofText text name line) ts := by
  unfold Lexer.tokens at h
  split at h
  · next hl => rwa [Except.ok.inj h] at hl
  · contradiction

end Scanner

namespace TokenStream

theorem rest_scanner (name : String) (s : Scanner) (line : Int) :
    (TokenStream.mk name s line none).rest.1 = match Lexer.lex s.line s.rest with
      | ⟨ts, none⟩ => .ok ts
      | ⟨_, some f⟩ => .error (f.failure s.name) := by
  induction hn : s.rest.length using Nat.strongRecOn generalizing s line with
  | ind n ih =>
    subst hn
    cases hstep : Lexer.nextStep s.line s.rest with
    | error f =>
      have hread : (TokenStream.mk name s line none).read =
          (.error (f.failure s.name), ⟨name, { s with rest := [] }, line, none⟩) := by
        simp only [read, TokenSource.next, Scanner.next, hstep]
      rw [rest_of_error hread, Lexer.lex_of_fault hstep]
    | ok found =>
      cases found with
      | none =>
        have hread : (TokenStream.mk name s line none).read =
            (.ok none, ⟨name, { s with rest := [] }, line, none⟩) := by
          simp only [read, TokenSource.next, Scanner.next, hstep]
        rw [rest_of_none hread, Lexer.lex_of_end hstep]
      | some step =>
        have hread : (TokenStream.mk name s line none).read = (.ok (some step.token),
            (TokenStream.mk name { s with line := step.line, rest := step.rest } line none).mark
              step.token) := by
          simp only [read, TokenSource.next, Scanner.next, hstep]
        obtain ⟨line', hmark⟩ := mark_eq (TokenStream.mk name
          { s with line := step.line, rest := step.rest } line none) step.token
        have hmore := ih _ (Lexer.nextStep_length_lt hstep)
          { s with line := step.line, rest := step.rest } line' rfl
        rw [rest_of_some hread, Lexer.lex_of_nextStep hstep, hmark, hmore]
        rcases Lexer.lex step.line step.rest with ⟨more, _ | f⟩ <;> rfl

/-- Lexing a text as a whole is to iterate over it to its end, which fails where lexing does. -/
theorem rest_ofText (text name : String) (line : Int) :
    (TokenStream.mk name (Scanner.ofText text name line) 0 none).rest.1 =
      Lexer.tokens name text line := by
  rw [rest_scanner]
  rfl

/-- Whatever is asked, the text that is lexed on demand and the list of its tokens reply alike. -/
theorem converse_ofText {source text : String} {line : Int} {ts : List Token}
    (h : Lexer.tokens source text line = .ok ts) (name : String) (requests : List Request) :
    converse [] ⟨name, Scanner.ofText text name line, 0, none⟩ requests =
      converse [] ⟨name, ts, 0, none⟩ requests :=
  converse_related Scanner.bisimulation_holds ⟨rfl, rfl, rfl, Scanner.holds_ofText h⟩ requests []

/-- Tokens are put back before the text is begun and behind its end, and one is put back in vain. -/
def puttingBack : List Request :=
  [.pushBack fun _ => some ⟨.word "c", -1⟩, .read, .expect "keyword", .pushBack lastToken, .atEnd,
    .pushBack lastToken, .read, .rest, .expect "value", .pushBack lastToken, .read]

theorem converse_ofText_puttingBack :
    Lexer.tokens "f" "a\nb;" = .ok [⟨.word "a", 1⟩, ⟨.word "b", 2⟩, ⟨.terminator, 2⟩] ∧
      converse [] ⟨"f", Scanner.ofText "a\nb;" "f", 0, none⟩ puttingBack =
        [⟨.token (some ⟨.word "a", 1⟩), 1⟩, ⟨.taken, 2⟩,
          ⟨.failed (.inText (.endOfInput "value") 2 "f"), 2⟩,
          ⟨.tokens [⟨.word "b", 2⟩, ⟨.terminator, 2⟩], 2⟩, ⟨.token (some ⟨.word "a", 1⟩), 1⟩,
          ⟨.failed (.putBackTwice "f"), 1⟩, ⟨.ended false, 1⟩, ⟨.taken, 1⟩,
          ⟨.token (some ⟨.word "a", 1⟩), 1⟩, ⟨.token (some ⟨.word "c", -1⟩), 0⟩, ⟨.taken, 0⟩] := by
  have hlex : Lexer.lex 1 "a\nb;".toList =
      ⟨[⟨.word "a", 1⟩, ⟨.word "b", 2⟩, ⟨.terminator, 2⟩], none⟩ :=
    Lexer.lex_of_lexWithin (n := 4) (by decide +kernel)
  have htokens : Lexer.tokens "f" "a\nb;" =
      .ok [⟨.word "a", 1⟩, ⟨.word "b", 2⟩, ⟨.terminator, 2⟩] := by
    unfold Lexer.tokens
    rw [hlex]
  refine ⟨htokens, ?_⟩
  rw [converse_ofText htokens "f" puttingBack]
  have hrest : (TokenStream.mk "f" [⟨.word "b", 2⟩, ⟨.terminator, 2⟩] 1 none).rest =
      (.ok [⟨.word "b", 2⟩, ⟨.terminator, 2⟩], ⟨"f", ([] : List Token), 2, none⟩) := by
    rw [rest_of_some rfl, rest_of_some rfl, rest_of_none rfl]
    rfl
  simp [puttingBack, converse, serve, pushBack, read, expect, atEnd, mark, lastToken,
    TokenSource.next, hrest]
end TokenStream

end CaseDict
