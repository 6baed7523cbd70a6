import CaseDict.Text.Marked
/-! # Listings of names

A listing gives names of characters in the order of their code points. Neighbours have similar
names, so a name is given by what is new in it. The entries, each beginning with a mark, are

* `=` and a code point in hexadecimal: the next name is for this code point;
* a letter from `a` to `l` and words: the next name begins with none (`a`), one (`b`), and so on, of
  the words of the name before, and goes on with these;
* `s`: the next name is the one before with `SMALL` in the place of `CAPITAL`, and the name after it
  is again given by what is new since the capital;
* `*` and a number: so many names follow, each with the successor of the last word before;
* `@` and a number: so many names follow, each ending with its own code point.

Words stand between blanks, and frequent parts of names are written as signs (`part`). Between
entries a listing may go on in a new line. -/

namespace CaseDict.Text.CharacterName

abbrev Listing := String

/-- The part of a name that a character of a listing stands for: signs for frequent words and for a
frequent ending, and all other characters for themselves. -/
def part : Char → String
  | '&' => " WITH "
  | '+' => " AND "
  | '.' => " LETTER "
  | '!' => " CAPITAL "
  | ',' => " SMALL "
  | '$' => " SIGN "
  | '?' => " SYMBOL "
  | '~' => " ARROW "
  | '%' => " FORM "
  | ';' => " ISOLATED "
  | '[' => " INITIAL "
  | ']' => " FINAL "
  | '<' => " LEFT "
  | '>' => " RIGHT "
  | '(' => " LEFTWARDS "
  | ')' => " RIGHTWARDS "
  | '^' => " ABOVE "
  | '_' => " BELOW "
  | '|' => " VERTICAL "
  | ':' => " DOUBLE "
  | '#' => "AL "
  | '\n' => " "
  | c => String.singleton c

/-- The words of an entry. -/
def wordsOf (text : List Char) : List String :=
  ((String.join (text.map part)).splitOn " ").filter (!·.isEmpty)

/-! ### Entries -/

inductive Entry where
  /-- The next name is for this code point. -/
  | place (code : Nat)
  /-- A name with `kept` words of the one before. -/
  | name (kept : Nat) (words : List String)
  /-- The small letter of a capital. -/
  | small
  /-- Names that are counted on. -/
  | counted (n : Nat)
  /-- Names that end with their code points. -/
  | coded (n : Nat)

def isMark (c : Char) : Bool := ('a' ≤ c && c ≤ 'l') || "s=*@".toList.contains c

/-- The entry of a mark and the text after it. -/
def Entry.ofMarked : Char × List Char → Entry
  | ('=', text) => place (numberIn 16 text)
  | ('*', text) => counted (numberIn 10 text)
  | ('@', text) => coded (numberIn 10 text)
  | ('s', _) => small
  | (letter, text) => name (letter.toNat - 'a'.toNat) (wordsOf text)

/-- The entries of a listing. -/
def entries (listing : Listing) : List Entry := (marked isMark listing).map Entry.ofMarked

/-! ### Names -/

/-- The last word is replaced by another. -/
def mapLast (f : String → String) : List String → List String
  | [] => []
  | [w] => [f w]
  | w :: ws => w :: mapLast f ws

/-- The word after another in a series: its number at the end is one greater and no shorter, or its
last letter is the next one of the alphabet. -/
def successor (word : String) : String :=
  let latest := word.toList.reverse
  match latest.takeWhile Char.isDigit, latest with
  | [], c :: cs => String.ofList (Char.ofNat (c.toNat + 1) :: cs).reverse
  | digits, _ =>
    let next := Nat.toDigits 10 (valueIn 10 digits.reverse + 1)
    String.ofList ((latest.dropWhile Char.isDigit).reverse ++
      List.replicate (digits.length - next.length) '0' ++ next)

/-- The word with what follows its last hyphen replaced by a code point. -/
def withCode (code : Nat) (word : String) : String :=
  String.ofList ((word.toList.reverse.dropWhile (· != '-')).reverse ++
    (Nat.toDigits 16 code).map Char.toUpper)

/-- `n` names from a code point on. The last word of each comes from the one before. -/
def series (next : Nat → String → String) : (n code : Nat) → List String →
    List (Nat × List String)
  | 0, _, _ => []
  | n + 1, code, words =>
    let words := mapLast (next code) words
    (code, words) :: series next n (code + 1) words

/-- A place in a listing: the code point that the next name is for, and the words of the name
before. -/
structure Place where
  code : Nat := 0
  words : List String := []

/-- The names that an entry gives, and the place after it. -/
def Entry.names (p : Place) : Entry → List (Nat × List String) × Place
  | place code => ([], { p with code })
  | name kept words =>
    let words := p.words.take kept ++ words
    ([(p.code, words)], ⟨p.code + 1, words⟩)
  | small =>
    let words := p.words.map fun w => if w = "CAPITAL" then "SMALL" else w
    ([(p.code, words)], { p with code := p.code + 1 })
  | counted n => continued (series (fun _ => successor) n p.code p.words)
  | coded n => continued (series withCode n p.code p.words)
where
  /-- The place after some names is behind the last of them. -/
  continued (names : List (Nat × List String)) : List (Nat × List String) × Place :=
    (names, ((names.getLast?).map fun (code, words) => ⟨code + 1, words⟩).getD p)

/-- The code point of a name, looked for from a place on. -/
def codeFrom? (name : List String) (p : Place) : List Entry → Option Nat
  | [] => none
  | e :: es =>
    let (names, p) := e.names p
    match names.find? (·.2 == name) with
    | some (code, _) => some code
    | none => codeFrom? name p es

/-- The code point of a name, given by its words, in a listing. -/
def code? (name : List String) (listing : Listing) : Option Nat :=
  codeFrom? name {} (entries listing)

end CaseDict.Text.CharacterName
