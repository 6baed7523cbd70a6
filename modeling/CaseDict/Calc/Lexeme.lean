import CaseDict.Calc.Expr
import CaseDict.Number
import CaseDict.Text.CharacterName
import CaseDict.Text.Identifier
import CaseDict.Text.Numeral
/-! # Lexemes of expressions

`lexemes?` splits the text of an expression into numbers, names, quoted texts and operators. Inside
brackets line ends do not count; outside they end the expression. Brackets must match and nest at
most 200 deep. -/

namespace CaseDict.Calc

open Text (isHexDigit isOctalDigit valueIn)

/-- What stands between quotes; a formatted text is kept unread, since expressions stand in it. -/
inductive Quoted where
  | text (codes : List Nat)
  | bytes (octets : List Nat)
  | formatted (raw : Bool) (body : List Char)

inductive Lexeme where
  | literal (value : Literal)
  | name (id : String)
  | quoted (content : Quoted)
  | operator (sign : String)
  | lineEnd

/-! ### Numbers -/

/-- Letters, digits, the underscore, and whatever lies beyond ASCII. -/
def mayContinueName (c : Char) : Bool := c.isAlphanum || c == '_' || 128 ≤ c.toNat

def mayStartName (c : Char) : Bool := mayContinueName c && !c.isDigit

/-- The words that may follow a number immediately. -/
def followers : List (List Char) :=
  ["and", "else", "for", "if", "in", "is", "or", "not"].map String.toList

/-- A number may end here: no name goes on, unless it begins like one of a few words. -/
def endsNumber (cs : List Char) : Bool :=
  followers.any (·.isPrefixOf cs) || !(cs.head?.map mayContinueName).getD false

/-- Digits of a base with single underscores between them, and what follows; there must be a digit
first. -/
def digits? (isDigit : Char → Bool) : List Char → Option (List Char × List Char)
  | c :: '_' :: cs =>
    if isDigit c then (digits? isDigit cs).map fun (ds, rest) => (c :: ds, rest) else none
  | c :: d :: cs =>
    if !isDigit c then none
    else if isDigit d then (digits? isDigit (d :: cs)).map fun (ds, rest) => (c :: ds, rest)
    else some ([c], d :: cs)
  | [c] => if isDigit c then some ([c], []) else none
  | [] => none

/-- An integer after its base prefix, which an underscore may separate from the digits. -/
def basedInteger (base : Nat) (isDigit : Char → Bool) (cs : List Char) :
    Option (Literal × List Char) := do
  let cs := match cs with
    | '_' :: rest => rest
    | _ => cs
  let (ds, rest) ← digits? isDigit cs
  guard (endsNumber rest && !(rest.head?.map Char.isDigit).getD false)
  return (.int (valueIn base ds), rest)

/-- The digits of an exponent with their sign, and what follows, if an exponent stands here. Without
digits the letter does not belong to the number; after a sign there must be some. -/
def exponent? (cs : List Char) : Option (Option Int × List Char) :=
  match cs with
  | e :: rest =>
    if e = 'e' || e = 'E' then
      let (sign, ds) := match rest with
        | '+' :: ds => (some false, ds)
        | '-' :: ds => (some true, ds)
        | ds => (none, ds)
      if sign.isNone && !(ds.head?.map Char.isDigit).getD false then
        if endsNumber cs then some (none, cs) else none
      else (digits? Char.isDigit ds).map fun (ds, rest) =>
        let n : Int := valueIn 10 ds
        (some (if sign == some true then -n else n), rest)
    else some (none, cs)
  | [] => some (none, [])

/-- The double of a whole part, a fraction and an exponent. -/
def floatOf (whole fraction : List Char) (e : Int) : Float :=
  Number.Decimal.toFloat false ⟨valueIn 10 (whole ++ fraction), e - fraction.length⟩

/-- What follows the whole part of a decimal number. -/
def decimalTail (whole cs : List Char) : Option (Literal × List Char) := do
  let (point, fraction, cs) ← match cs with
    | '.' :: rest =>
      if (rest.head?.map Char.isDigit).getD false then
        (digits? Char.isDigit rest).map fun (ds, rest) => (true, ds, rest)
      else some (true, [], rest)
    | cs => some (false, [], cs)
  let (e, cs) ← exponent? cs
  match cs with
  | 'j' :: rest | 'J' :: rest =>
    guard (endsNumber rest)
    return (.imaginary (floatOf whole fraction (e.getD 0)), rest)
  | cs =>
    guard (endsNumber cs)
    if point || e.isSome then return (.float (floatOf whole fraction (e.getD 0)), cs)
    if whole.all (· == '0') then return (.int 0, cs)
    guard (whole.length ≤ Number.digitLimit && whole.head? != some '0')
    return (.int (valueIn 10 whole), cs)

/-- A number: an integer in base 2, 8 or 16 after a prefix, or a decimal one. -/
def number : List Char → Option (Literal × List Char)
  | '0' :: 'x' :: cs | '0' :: 'X' :: cs => basedInteger 16 isHexDigit cs
  | '0' :: 'o' :: cs | '0' :: 'O' :: cs => basedInteger 8 isOctalDigit cs
  | '0' :: 'b' :: cs | '0' :: 'B' :: cs => basedInteger 2 (fun c => c == '0' || c == '1') cs
  | '.' :: cs => decimalTail [] ('.' :: cs)
  | cs => do
    let (whole, rest) ← digits? Char.isDigit cs
    decimalTail whole rest

/-! ### Quoted texts -/

/-- What the prefix of a quoted text says. -/
structure Flavour where
  bytes : Bool := false
  raw : Bool := false
  formatted : Bool := false
  plain : Bool := false

/-- Adds one letter of a prefix. -/
def Flavour.add? (f : Flavour) (c : Char) : Option Flavour :=
  match c.toLower with
  | 'b' => if f.bytes || f.plain || f.formatted then none else some { f with bytes := true }
  | 'u' =>
    if f.bytes || f.plain || f.formatted || f.raw then none else some { f with plain := true }
  | 'r' => if f.raw || f.plain then none else some { f with raw := true }
  | 'f' => if f.bytes || f.plain || f.formatted then none else some { f with formatted := true }
  | _ => none

/-- The prefix of a quoted text and what follows, if a quote follows it. -/
def flavour? (f : Flavour) : List Char → Option (Flavour × List Char)
  | [] => none
  | c :: cs =>
    if c = '"' || c = '\'' then some (f, c :: cs)
    else (f.add? c).bind fun f => flavour? f cs

/-- The body of a text between single quotes: it stays on its line unless line ends are escaped. -/
def shortBody (quote : Char) : List Char → Option (List Char × List Char)
  | '\\' :: c :: cs => (shortBody quote cs).map fun (body, rest) => ('\\' :: c :: body, rest)
  | c :: cs =>
    if c = quote then some ([], cs)
    else if c = '\n' then none
    else (shortBody quote cs).map fun (body, rest) => (c :: body, rest)
  | [] => none

/-- The body of a text between tripled quotes. -/
def longBody (quote : Char) : List Char → Option (List Char × List Char)
  | '\\' :: c :: cs => (longBody quote cs).map fun (body, rest) => ('\\' :: c :: body, rest)
  | c :: cs =>
    if c = quote && [quote, quote].isPrefixOf cs then some ([], cs.drop 2)
    else (longBody quote cs).map fun (body, rest) => (c :: body, rest)
  | [] => none

/-- The body of a quoted text that begins with its quote. -/
def body : List Char → Option (List Char × List Char)
  | q :: cs => if [q, q].isPrefixOf cs then longBody q (cs.drop 2) else shortBody q cs
  | [] => none

/-- The character that a letter stands for after a backslash. -/
def letterEscape? : Char → Option Nat
  | '\\' => some 0x5c
  | '\'' => some 0x27
  | '"' => some 0x22
  | 'a' => some 0x07
  | 'b' => some 0x08
  | 'f' => some 0x0c
  | 'n' => some 0x0a
  | 'r' => some 0x0d
  | 't' => some 0x09
  | 'v' => some 0x0b
  | _ => none

/-- Exactly `n` hexadecimal digits, and what follows. -/
def hexadecimal? (n : Nat) (cs : List Char) : Option (Nat × List Char) :=
  let ds := cs.take n
  if ds.length = n && ds.all isHexDigit then some (valueIn 16 ds, cs.drop n) else none

/-- The character whose name stands between braces, and what follows. -/
def named? : List Char → Option (Nat × List Char)
  | '{' :: cs => do
    let c ← Text.namedCharacter? (String.ofList (cs.takeWhile (· != '}')))
    let _ :: rest := cs.dropWhile (· != '}') | none
    return (c.toNat, rest)
  | _ => none

/-- The code points of a text with escapes. `narrow` reads octets, which have no escapes for wide
characters. -/
def unescape (narrow : Bool) : Nat → List Char → Option (List Nat)
  | 0, _ => some []
  | _ + 1, [] => some []
  | fuel + 1, '\\' :: c :: cs => do
    if c = '\n' then unescape narrow fuel cs
    else if let some code := letterEscape? c then return code :: (← unescape narrow fuel cs)
    else if isOctalDigit c then
      let more := (cs.take 2).takeWhile isOctalDigit
      let code := valueIn 8 (c :: more)
      return (if narrow then code % 256 else code) :: (← unescape narrow fuel (cs.drop more.length))
    else if c = 'x' then
      let (code, rest) ← hexadecimal? 2 cs
      return code :: (← unescape narrow fuel rest)
    else if narrow then return 0x5c :: (← unescape narrow fuel (c :: cs))
    else if c = 'u' then
      let (code, rest) ← hexadecimal? 4 cs
      return code :: (← unescape narrow fuel rest)
    else if c = 'U' then
      let (code, rest) ← hexadecimal? 8 cs
      guard (code ≤ 0x10ffff)
      return code :: (← unescape narrow fuel rest)
    else if c = 'N' then
      let (code, rest) ← named? cs
      return code :: (← unescape narrow fuel rest)
    else return 0x5c :: (← unescape narrow fuel (c :: cs))
  | fuel + 1, c :: cs => do return c.toNat :: (← unescape narrow fuel cs)

/-- The content of a quoted text. Octets must be written in ASCII. -/
def Flavour.content? (f : Flavour) (body : List Char) : Option Quoted :=
  if f.bytes then
    if body.any fun c => 128 ≤ c.toNat then none
    else if f.raw then some (.bytes (body.map Char.toNat))
    else (unescape true body.length body).map .bytes
  else if f.formatted then some (.formatted f.raw body)
  else if f.raw then some (.text (body.map Char.toNat))
  else (unescape false body.length body).map .text

/-! ### Whole texts -/

/-- Operators of three, two and one characters; a longer one goes first. -/
def operators : List (List Char) :=
  ["**=", "//=", ">>=", "<<=", "...", "**", "//", ">>", "<<", "<=", ">=", "==", "!=", "->", "+=",
    "-=", "*=", "/=", "%=", "&=", "|=", "^=", "@=", ":=", "<>", "+", "-", "*", "/", "%", "&", "|",
    "^", "~", "<", ">", "=", ".", ",", ":", ";", "@", "(", ")", "[", "]", "\x7b", "\x7d"].map
    String.toList

/-- The bracket that closes another. -/
def closerOf? : Char → Option Char
  | '(' => some ')'
  | '[' => some ']'
  | '{' => some '}'
  | _ => none

/-- Brackets nest at most so deep. -/
def nestingLimit : Nat := 200

/-- The open brackets after one more operator, given as the closers awaited. -/
def track? (opened : List Char) (sign : List Char) : Option (List Char) :=
  match sign with
  | [c] =>
    match closerOf? c with
    | some closer => if opened.length < nestingLimit then some (closer :: opened) else none
    | none =>
      if c = ')' || c = ']' || c = '}' then
        match opened with
        | awaited :: rest => if awaited = c then some rest else none
        | [] => none
      else some opened
  | _ => some opened

/-- A lexeme that is not a bracket or another operator, at the beginning of a text. -/
def word? (cs : List Char) : Option (Option (Lexeme × List Char)) :=
  match cs with
  | [] => some none
  | c :: rest =>
    if c.isDigit || (c = '.' && (rest.head?.map Char.isDigit).getD false) then
      (number cs).map fun (l, rest) => some (.literal l, rest)
    else match flavour? {} cs with
      | some (f, quoted) => do
        let (content, rest) ← body quoted
        return some (.quoted (← f.content? content), rest)
      | none =>
        if mayStartName c then
          let id := String.ofList (cs.takeWhile mayContinueName)
          if Text.isIdentifier id then some (some (.name id, cs.dropWhile mayContinueName))
          else none
        else some none

/-- The lexemes of a text. `opened` holds the closers awaited; `fresh` says that no lexeme of the
line was seen yet, and `indented` that space stands before the first one, which is not allowed. -/
def lexFrom : Nat → (opened : List Char) → (fresh indented : Bool) → List Char →
    Option (List Lexeme)
  | _, opened, _, _, [] => if opened.isEmpty then some [] else none
  | 0, _, _, _, _ :: _ => none
  | fuel + 1, opened, fresh, indented, c :: cs =>
    if c = '\n' then
      if !opened.isEmpty then lexFrom fuel opened fresh indented cs
      else if fresh then lexFrom fuel opened true false cs
      else (lexFrom fuel opened true false cs).map (.lineEnd :: ·)
    else if c = ' ' || c = '\t' then lexFrom fuel opened fresh true cs
    else if c = '\x0c' then lexFrom fuel opened fresh false cs
    else if c = '#' then lexFrom fuel opened fresh indented (cs.dropWhile (· != '\n'))
    else if c = '\\' then
      match cs with
      | '\n' :: d :: rest => lexFrom fuel opened fresh indented (d :: rest)
      | _ => none
    else if fresh && indented then none
    else do
      match ← word? (c :: cs) with
      | some (l, rest) => return l :: (← lexFrom fuel opened false false rest)
      | none =>
        let sign ← operators.find? (·.isPrefixOf (c :: cs))
        let opened ← track? opened sign
        let rest ← lexFrom fuel opened false false ((c :: cs).drop sign.length)
        return .operator (String.ofList sign) :: rest

/-- Line ends of all kinds as newlines. -/
def unifyLineEnds : List Char → List Char
  | '\x0d' :: '\n' :: cs => '\n' :: unifyLineEnds cs
  | '\x0d' :: cs => '\n' :: unifyLineEnds cs
  | c :: cs => c :: unifyLineEnds cs
  | [] => []

/-- The lexemes of an expression's text. -/
def lexemes? (text : List Char) : Option (List Lexeme) :=
  lexFrom (text.length + 1) [] true false (unifyLineEnds text)

end CaseDict.Calc
