import CaseDict.Number
import CaseDict.Text.Alphanumeric
import CaseDict.Text.Quoted
/-! # Tokens

The smallest units of a dictionary text. A `Symbol` is what was written: a word, quoted text, a
number, a bracket, a comma, a reference `$name`, a directive `#name` or the end of a statement. A
`Token` is a symbol with the line it stands on. `Symbol.text` writes a symbol so that it reads back
as itself. -/

namespace CaseDict

/-- The three kinds of brackets. -/
inductive Bracket where
  | round
  | brace
  | square
  deriving DecidableEq, Repr

namespace Bracket

def opening : Bracket → String
  | round => "("
  | brace => "\x7b"
  | square => "["

def closing : Bracket → String
  | round => ")"
  | brace => "\x7d"
  | square => "]"

end Bracket

/-- What a token stands for. -/
inductive Symbol where
  | word (text : String)
  | quoted (content : String)
  | number (value : Number)
  | opener (bracket : Bracket)
  | closer (bracket : Bracket)
  | comma
  | reference (name : String)
  | directive (name : String)
  | terminator
  deriving DecidableEq

/-- The seven kinds that diagnostics tell apart; brackets and commas are one of them. -/
inductive Kind where
  | word
  | string
  | number
  | punctuation
  | reference
  | directive
  | endStatement
  deriving DecidableEq, Repr

/-- The kind as diagnostics write it. -/
def Kind.label : Kind → String
  | word => "WORD"
  | string => "STRING"
  | number => "NUMBER"
  | punctuation => "PUNCTUATION"
  | reference => "VARIABLE"
  | directive => "DIRECTIVE"
  | endStatement => "END_STATEMENT"

namespace Symbol

def kind : Symbol → Kind
  | word _ => .word
  | quoted _ => .string
  | number _ => .number
  | opener _ | closer _ | comma => .punctuation
  | reference _ => .reference
  | directive _ => .directive
  | terminator => .endStatement

/-- The content of quoted text with its backslashes and quotes escaped. -/
def escape : List Char → List Char
  | [] => []
  | c :: cs => if c == '"' || c == '\\' then '\\' :: c :: escape cs else c :: escape cs

/-- The characters of a reference that needs no braces. -/
def isPlainReference (c : Char) : Bool := Text.isAlnum c || "_./!:".toList.contains c

/-- The symbol without quotes, sigil or braces: its content. -/
def value : Symbol → String
  | word s | quoted s | reference s | directive s => s
  | number n => n.text
  | opener b => b.opening
  | closer b => b.closing
  | comma => ","
  | terminator => ";"

/-- The symbol as it is written in a dictionary. -/
def text : Symbol → String
  | quoted s => "\"" ++ String.ofList (escape s.toList) ++ "\""
  | reference s => if s.toList.all isPlainReference then "$" ++ s else "$\x7b" ++ s ++ "\x7d"
  | directive s => "#" ++ s
  | s => s.value

/-- The content as diagnostics show it: numbers plain, all else between quotes. -/
def shown : Symbol → String
  | number n => n.text
  | s => Text.quote s.value

/-- Both have the same kind and the same value, numbers being compared by value. -/
def same : Symbol → Symbol → Bool
  | number a, number b => a.sameValue b
  | a, b => a == b

/-- References and directives, which expansion replaces. -/
def isMacro : Symbol → Bool
  | reference _ | directive _ => true
  | _ => false

def isPunctuation (s : Symbol) : Bool := s.kind == .punctuation

def isOpener : Symbol → Bool
  | opener _ => true
  | _ => false

def isCloser : Symbol → Bool
  | closer _ => true
  | _ => false

/-- The directive's name is among `names`. -/
def isDirectiveIn (names : List String) : Symbol → Bool
  | directive s => names.contains s
  | _ => false

end Symbol

/-- A symbol and the line it stands on; a negative line means none. -/
structure Token where
  symbol : Symbol
  line : Int := -1
  deriving DecidableEq

namespace Token

def text (t : Token) : String := t.symbol.text

/-- The token with kind, content and line, for diagnostics. -/
def describe (t : Token) : String :=
  "Token(" ++ t.symbol.kind.label ++ ", " ++ t.symbol.shown ++ ", line=" ++ toString t.line ++ ")"

/-- Texts of tokens joined by single spaces, for messages. -/
def spaced (ts : List Token) : String := " ".intercalate (ts.map text)

end Token

end CaseDict
