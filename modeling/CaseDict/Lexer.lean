import CaseDict.Error
import CaseDict.Text.Blank
/-! # From text to tokens

A text is a sequence of lexemes with gaps between them: white space, `//` comments and `/* */`
comments. `skipGap` passes over a gap and counts its lines, `lexeme` reads the symbol that starts at
a character, and `lex` repeats the two. Every step leaves less text than it found
(`skipGap_length_le`, `lexeme_length_le`), which is why `lex` ends. -/

namespace CaseDict.Lexer

/-- Why the lexer stops before the end of the text. -/
inductive LexFault where
  | misplaced (cause : Cause) (line : Int)
  | numeralTooLong
  deriving DecidableEq

/-- The failure of a read in the text `source`. -/
def LexFault.failure (source : String) : LexFault → Failure
  | misplaced cause line => .inText cause line source
  | numeralTooLong => .numeralTooLong

/-! ### Gaps -/

/-- Where in a gap the lexer is: between comments, in a comment up to the end of its line, or in a
block comment that began on the given line. -/
inductive Gap where
  | plain
  | lineComment
  | blockComment (start : Int)

/-- Passes over white space and comments; returns the line reached and the text left, which does not
begin with a gap. -/
def skipGap : Gap → Int → List Char → Except LexFault (Int × List Char)
  | .plain, line, '/' :: '/' :: cs => skipGap .lineComment line cs
  | .plain, line, '/' :: '*' :: cs => skipGap (.blockComment line) line cs
  | .plain, line, c :: cs =>
    if c = '\n' then skipGap .plain (line + 1) cs
    else if Text.isBlank c then skipGap .plain line cs
    else .ok (line, c :: cs)
  | .plain, line, [] => .ok (line, [])
  | .lineComment, line, c :: cs =>
    if c = '\n' then skipGap .plain (line + 1) cs else skipGap .lineComment line cs
  | .lineComment, line, [] => .ok (line, [])
  | .blockComment _, line, '*' :: '/' :: cs => skipGap .plain line cs
  | .blockComment start, line, c :: cs =>
    skipGap (.blockComment start) (if c = '\n' then line + 1 else line) cs
  | .blockComment start, _, [] => .error (.misplaced .unterminatedComment start)

/-! ### Lexemes -/

/-- A word read as a number if it is one. -/
def classify (word : List Char) : Except LexFault Symbol :=
  match Number.read word with
  | .number n => .ok (.number n)
  | .tooLong => .error .numeralTooLong
  | .noNumber => .ok (.word (String.ofList word))

/-- The characters that end a word wherever they stand. -/
def breaksWord (c : Char) : Bool := Text.isBlank c || ";\x7b\x7d[]\"".toList.contains c

/-- Splits off the rest of a word in which `depth` round brackets are open. A word ends before a
character that breaks it, before a comment, and outside brackets before `)` and `,`. -/
def splitWord : Nat → List Char → List Char × List Char
  | depth, c :: cs =>
    if breaksWord c || (c = '/' && (cs.head? = some '/' || cs.head? = some '*')) then ([], c :: cs)
    else if (c = ')' || c = ',') && depth = 0 then ([], c :: cs)
    else
      let inner := if c = '(' then depth + 1 else if c = ')' then depth - 1 else depth
      let (word, rest) := splitWord inner cs
      (c :: word, rest)
  | _, [] => ([], [])

/-- Splits off the content of quoted text, after its opening quote. A backslash stands for itself
except before a quote or a backslash. -/
def splitQuoted : List Char → Option (List Char × List Char)
  | '\\' :: '"' :: cs => (splitQuoted cs).map fun (s, rest) => ('"' :: s, rest)
  | '\\' :: '\\' :: cs => (splitQuoted cs).map fun (s, rest) => ('\\' :: s, rest)
  | '"' :: cs => some ([], cs)
  | c :: cs => (splitQuoted cs).map fun (s, rest) => (c :: s, rest)
  | [] => none

/-- How the name between the braces of a reference ends. -/
inductive Braced where
  | closed (name rest : List Char)
  | brokenByNewline
  | unterminated

/-- Puts a character in front of the name. -/
def Braced.cons (c : Char) : Braced → Braced
  | closed name rest => .closed (c :: name) rest
  | b => b

/-- Reads up to the brace that closes a reference, `depth` inner braces being open. -/
def splitBraced : Nat → List Char → Braced
  | depth, c :: cs =>
    if c = '{' then (splitBraced (depth + 1) cs).cons c
    else if c = '}' then if depth = 0 then .closed [] cs else (splitBraced (depth - 1) cs).cons c
    else if c = '\n' then .brokenByNewline
    else (splitBraced depth cs).cons c
  | _, [] => .unterminated

/-- The characters of a reference without braces. -/
def isReferenceChar (c : Char) : Bool := Text.isWord c || "./!:".toList.contains c

def newlines (cs : List Char) : Int := cs.count '\n'

/-- A token with the line reached after it and the text left. -/
structure Step where
  token : Token
  line : Int
  rest : List Char

/-- The reference after its sigil. -/
def reference (line : Int) : List Char → Except LexFault Step
  | '{' :: cs =>
    match splitBraced 0 cs with
    | .closed name rest =>
      match Text.trim name with
      | [] => .error (.misplaced .emptyReference line)
      | name => .ok ⟨⟨.reference (String.ofList name), line⟩, line, rest⟩
    | .brokenByNewline => .error (.misplaced .brokenReference line)
    | .unterminated => .error (.misplaced .unterminatedReference line)
  | cs =>
    match cs.takeWhile isReferenceChar with
    | [] => .error (.misplaced .namelessReference line)
    | name =>
      .ok ⟨⟨.reference (String.ofList name), line⟩, line, cs.dropWhile isReferenceChar⟩

/-- The directive after its sigil. -/
def directive (line : Int) (cs : List Char) : Except LexFault Step :=
  match cs.takeWhile Text.isWord with
  | [] => .error (.misplaced .namelessDirective line)
  | name => .ok ⟨⟨.directive (String.ofList name), line⟩, line, cs.dropWhile Text.isWord⟩

/-- Quoted text after its opening quote. -/
def quoted (line : Int) (cs : List Char) : Except LexFault Step :=
  match splitQuoted cs with
  | some (content, rest) =>
    .ok ⟨⟨.quoted (String.ofList content), line⟩, line + newlines content, rest⟩
  | none => .error (.misplaced .unterminatedText line)

/-- The word that begins with `c`, as a number if it is one. -/
def word (line : Int) (c : Char) (cs : List Char) : Except LexFault Step :=
  let (more, rest) := splitWord 0 cs
  (classify (c :: more)).map fun s => ⟨⟨s, line⟩, line, rest⟩

/-- The symbol of a character that is a lexeme by itself. -/
def single? : Char → Option Symbol
  | ';' => some .terminator
  | '(' => some (.opener .round)
  | ')' => some (.closer .round)
  | '{' => some (.opener .brace)
  | '}' => some (.closer .brace)
  | '[' => some (.opener .square)
  | ']' => some (.closer .square)
  | ',' => some .comma
  | _ => none

/-- The lexeme that begins with `c` and goes on in `cs`. -/
def lexeme (line : Int) (c : Char) (cs : List Char) : Except LexFault Step :=
  if c = '"' then quoted line cs
  else if c = '$' then reference line cs
  else if c = '#' then directive line cs
  else match single? c with
    | some s => .ok ⟨⟨s, line⟩, line, cs⟩
    | none => word line c cs

/-! ### Every step takes something from the text -/

theorem skipGap_length_le {gap : Gap} {line line' : Int} {cs rest : List Char}
    (h : skipGap gap line cs = .ok (line', rest)) : rest.length ≤ cs.length := by
  fun_induction skipGap gap line cs <;> grind

theorem splitWord_length_le (depth : Nat) (cs : List Char) :
    (splitWord depth cs).2.length ≤ cs.length := by
  fun_induction splitWord depth cs <;> grind

theorem splitQuoted_length_le {cs content rest : List Char}
    (h : splitQuoted cs = some (content, rest)) : rest.length ≤ cs.length := by
  fun_induction splitQuoted cs generalizing content <;> grind [Option.map_eq_some_iff]

theorem Braced.cons_eq_closed {c : Char} {b : Braced} {name rest : List Char}
    (h : b.cons c = .closed name rest) : ∃ inner, b = .closed inner rest := by
  cases b <;> simp_all [Braced.cons]

theorem splitBraced_length_le {depth : Nat} {cs name rest : List Char}
    (h : splitBraced depth cs = .closed name rest) : rest.length ≤ cs.length := by
  fun_induction splitBraced depth cs generalizing name <;> grind [Braced.cons_eq_closed]

theorem dropWhile_length_le (p : Char → Bool) (cs : List Char) :
    (cs.dropWhile p).length ≤ cs.length := (List.dropWhile_suffix p).length_le

theorem lexeme_length_le {line : Int} {c : Char} {cs : List Char} {s : Step}
    (h : lexeme line c cs = .ok s) : s.rest.length ≤ cs.length := by
  have hw := splitWord_length_le 0 cs
  have hd := dropWhile_length_le
  have hq := @splitQuoted_length_le cs
  unfold lexeme at h
  split at h
  · grind [quoted]
  split at h
  · unfold reference at h
    split at h
    · next cs => have hb := @splitBraced_length_le 0 cs; grind
    · grind
  split at h
  · grind [directive]
  · split at h
    · grind
    · simp only [word] at h
      cases hc : classify (c :: (splitWord 0 cs).1) <;> simp [hc, Except.map] at h
      subst h
      exact hw

/-! ### Whole texts -/

/-- The next token, the line after it and the text after it; none at the end of the text. -/
def nextStep (line : Int) (cs : List Char) : Except LexFault (Option Step) :=
  match skipGap .plain line cs with
  | .error f => .error f
  | .ok (_, []) => .ok none
  | .ok (line, c :: rest) => (lexeme line c rest).map some

theorem nextStep_length_lt {line : Int} {cs : List Char} {s : Step}
    (h : nextStep line cs = .ok (some s)) : s.rest.length < cs.length := by
  unfold nextStep at h
  split at h
  · contradiction
  · simp at h
  · rename_i at' c rest hg
    have hle := skipGap_length_le hg
    cases hl : lexeme at' c rest with
    | error f => simp [hl, Except.map] at h
    | ok found =>
      simp only [hl, Except.map, Except.ok.injEq, Option.some.injEq] at h
      subst h
      have := lexeme_length_le hl
      simp only [List.length_cons] at hle
      omega

/-- The tokens of a text, and the fault that ends them if the text is not read to its end. -/
structure Lexed where
  tokens : List Token
  fault : Option LexFault
  deriving DecidableEq

/-- All tokens of the text `cs`, whose first line is numbered `line`. -/
def lex (line : Int) (cs : List Char) : Lexed :=
  match _h : nextStep line cs with
  | .error f => ⟨[], some f⟩
  | .ok none => ⟨[], none⟩
  | .ok (some s) =>
    let more := lex s.line s.rest
    ⟨s.token :: more.tokens, more.fault⟩
termination_by cs.length
decreasing_by exact nextStep_length_lt _h

/-- The tokens of a text named `source`, or the failure that lexing it ends in. -/
def tokens (source : String) (text : String) (line : Int := 1) : Except Failure (List Token) :=
  match lex line text.toList with
  | ⟨ts, none⟩ => .ok ts
  | ⟨_, some f⟩ => .error (f.failure source)

end CaseDict.Lexer
