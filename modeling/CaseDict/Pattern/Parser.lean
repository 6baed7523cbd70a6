import CaseDict.Pattern.Source
import CaseDict.Text.Blank
import CaseDict.Text.CharacterName
import CaseDict.Text.Digit
import CaseDict.Text.Identifier
import CaseDict.Text.Numeral
/-! # Reading regular expressions

`Regex.parse` reads the text of a keyword pattern: alternatives, repetitions, sets, escapes, groups
(numbered, named, with options, atomic, conditional), references to groups, and looking ahead and
behind. -/

namespace CaseDict.Pattern

open Text (isHexDigit isOctalDigit valueIn)

/-! ### Escapes -/

/-- The control characters that a letter stands for after a backslash. -/
def controlEscape? : Char → Option Nat
  | 'a' => some 0x07
  | 'f' => some 0x0c
  | 'n' => some 0x0a
  | 'r' => some 0x0d
  | 't' => some 0x09
  | 'v' => some 0x0b
  | '\\' => some 0x5c
  | _ => none

/-- The classes of characters that a letter stands for after a backslash. -/
def categoryEscape? (ascii : Bool) : Char → Option SetItem
  | 'd' => some (.category .digit false ascii)
  | 'D' => some (.category .digit true ascii)
  | 's' => some (.category .space false ascii)
  | 'S' => some (.category .space true ascii)
  | 'w' => some (.category .word false ascii)
  | 'W' => some (.category .word true ascii)
  | _ => none

/-- The places that a letter stands for after a backslash. -/
def anchorEscape? (ascii : Bool) : Char → Option Anchor
  | 'A' => some .textStart
  | 'Z' => some .textEnd
  | 'b' => some (.wordBoundary false ascii)
  | 'B' => some (.wordBoundary true ascii)
  | _ => none

/-- Exactly `n` hexadecimal digits. -/
def hexEscape (n : Nat) : Parser Nat := do
  let digits ← takeUpTo n isHexDigit
  require (digits.length == n && valueIn 16 digits ≤ 0x10ffff)
  return valueIn 16 digits

/-- The name of a character between braces. -/
def nameEscape : Parser Nat := do
  require (← eat '\x7b')
  let name ← takeUntil '\x7d'
  let some c := Text.namedCharacter? (String.ofList name) | malformed
  return c.toNat

/-- The code point after `\x`, `\u`, `\U` or `\N`. -/
def codeEscape? : Char → Option (Parser Nat)
  | 'x' => some (hexEscape 2)
  | 'u' => some (hexEscape 4)
  | 'U' => some (hexEscape 8)
  | 'N' => some nameEscape
  | _ => none

/-- A character that stands for itself after a backslash; letters have a meaning or are refused. -/
def selfEscape (c : Char) : Parser Nat := do
  require (!c.isAlpha)
  return c.toNat

/-- An octal escape, which denotes at most 255. -/
def octalEscape (digits : List Char) : Parser Nat := do
  require (valueIn 8 digits ≤ 0o377)
  return valueIn 8 digits

/-- What a backslash and a character mean inside a set. -/
def setEscape (ascii : Bool) (c : Char) : Parser SetItem := do
  if c = 'b' then return .char 0x08
  if let some code := controlEscape? c then return .char code
  if let some item := categoryEscape? ascii c then return item
  if let some code := codeEscape? c then return .char (← code)
  if isOctalDigit c then
    let more ← takeUpTo 2 isOctalDigit
    return .char (← octalEscape (c :: more))
  require (!c.isDigit)
  return .char (← selfEscape c)

/-- The group may be referred to: it is closed, and if this is inside a look behind it was opened
before that. -/
def requireGroup (index : Nat) : Parser Unit := do
  let s ← get
  require (s.closed.any (·.1 == index) && s.behindFrom.all (index < ·))

/-- What a backslash and a character mean outside a set. -/
def escape (o : Options) (c : Char) : Parser Node := do
  let literal (code : Nat) : Node := .one (.ofChar o.rule code)
  if let some place := anchorEscape? o.ascii c then return .anchor place
  if let some item := categoryEscape? o.ascii c then return .one (.ofItems o.rule [item])
  if let some code := controlEscape? c then return literal code
  if let some code := codeEscape? c then return literal (← code)
  if c = '0' then
    let more ← takeUpTo 2 isOctalDigit
    return literal (valueIn 8 more)
  if c.isDigit then
    let second ← takeUpTo 1 Char.isDigit
    let nextIsOctal := ((← peek).map (·.isPlain isOctalDigit)).getD false
    if isOctalDigit c && !second.isEmpty && second.all isOctalDigit && nextIsOctal then
      let third ← takeUpTo 1 isOctalDigit
      return literal (← octalEscape (c :: second ++ third))
    let index := valueIn 10 (c :: second)
    requireGroup index
    return .sameAs index o.rule
  return literal (← selfEscape c)

/-! ### Sets -/

/-- One end of a range, or a single member: an escape or any character. -/
def setMember (ascii : Bool) : Parser SetItem := do
  match ← takePiece with
  | .plain c => return .char c.toNat
  | .escaped c => setEscape ascii c
  | .lone => malformed

/-- The members of a set up to its closing bracket, which is a member itself in first place. -/
def setItems (ascii : Bool) : Nat → List SetItem → Parser (List SetItem)
  | 0, _ => malformed
  | fuel + 1, items => do
    if !items.isEmpty then
      if ← eat ']' then return items
    let low ← setMember ascii
    if ← eat '-' then
      if ← eat ']' then return items ++ [low, .char '-'.toNat]
      let high ← setMember ascii
      match low, high with
      | .char first, .char last =>
        require (first ≤ last)
        setItems ascii fuel (items ++ [.range first last])
      | _, _ => malformed
    else setItems ascii fuel (items ++ [low])

/-- The test for a set, after its opening bracket. A set of one character is that character. -/
def setTest (o : Options) : Parser Test := do
  let negated ← eat '^'
  let items ← setItems o.ascii ((← get).rest.length + 1) []
  match items.eraseDups with
  | [.char code] => return .ofChar o.rule code negated
  | items => return .ofItems o.rule items negated

/-! ### Options -/

/-- An option that can be set or unset inside the pattern. -/
def setOption (value : Bool) (o : Options) : Char → Option Options
  | 'i' => some { o with ignoreCase := value }
  | 'm' => some { o with multiline := value }
  | 's' => some { o with dotAll := value }
  | 'x' => some { o with verbose := value }
  | _ => none

/-- The letters of options up to the character that ends them. -/
def takeLetters : Parser (List Char) := takeAll fun c => "imsxaut".toList.contains c

/-- Sets all options of `letters`; those for ASCII and Unicode exclude each other. -/
def addOptions (o : Options) (letters : List Char) : Option Options := do
  guard (!(letters.contains 'a' && letters.contains 'u'))
  letters.foldlM (fun o c =>
    if c = 'a' then some { o with ascii := true }
    else if c = 'u' then some { o with unicode := true }
    else if c = 't' then some { o with template := true }
    else setOption true o c) o

/-- The options for a group: one of ASCII and Unicode takes the place of the other. -/
def groupOptions (o : Options) (added removed : List Char) : Option Options := do
  guard (!added.contains 't' && !removed.any fun c => added.contains c)
  let o := if added.contains 'a' || added.contains 'u' then
    { o with ascii := false, unicode := false } else o
  removed.foldlM (setOption false) (← addOptions o added)

/-- The options after `(?`: set for the whole pattern (none), or for a group. -/
def options (o : Options) : Parser (Option Options) := do
  let added ← takeLetters
  let some whole := addOptions o added | malformed
  if !added.isEmpty then
    if ← eat ')' then
      modify ({ · with options := whole })
      return none
  let removed ← if ← eat '-' then
      let removed ← takeLetters
      require (!removed.isEmpty)
      pure removed
    else
      require (!added.isEmpty)
      pure []
  require (← eat ':')
  let some inner := groupOptions o added removed | malformed
  return some inner

/-! ### Repetitions -/

/-- The most digits that a number is read from. -/
def digitLimit : Nat := 4300

/-- A count of repetitions; none if there are no digits. -/
def count? (digits : List Char) : Parser (Option Nat) := do
  if digits.isEmpty then return none
  if digitLimit < digits.length then throw .numeralTooLong
  if countBound ≤ valueIn 10 digits then throw .countTooLarge
  return some (valueIn 10 digits)

/-- The counts of a repetition after its sign; none if a brace begins no repetition. -/
def counts (sign : Char) : Parser (Option (Nat × Option Nat)) := do
  match sign with
  | '*' => return some (0, none)
  | '+' => return some (1, none)
  | '?' => return some (0, some 1)
  | _ =>
    let start ← get
    if (← peek) == some (.plain '\x7d') then return none
    let low ← takeAll Char.isDigit
    let high ← if ← eat ',' then takeAll Char.isDigit else pure low
    if !(← eat '\x7d') then
      set start
      return none
    let least := (← count? low).getD 0
    let most ← count? high
    require (most.all (least ≤ ·))
    return some (least, most)

/-! ### Sequences -/

/-- A part of a sequence while the sequence is read. -/
inductive Item where
  | node (n : Node)
  /-- A group that has neither a number nor options; its parts become parts of the sequence. -/
  | plain (body : List Item)
  /-- A group with options, and the test that it consists of, if it does. -/
  | underOptions (only : Option Test) (nodes : List Node)

namespace Item

def nodes : Item → List Node
  | node n => [n]
  | plain _ => []
  | underOptions _ ns => ns

/-- The parts that a part leaves in the sequence. -/
def dissolved : Item → List Item
  | plain body => body
  | i => [i]

/-- The test that a sequence consists of, if it does. -/
def only? : List Item → Option Test
  | [node (.one t)] => some t
  | [underOptions t _] => t
  | _ => none

/-- Both are the same test, place or reference. -/
def isSame : Item → Item → Bool
  | node (.one t), node (.one u) => t == u
  | node (.anchor a), node (.anchor b) => a == b
  | node (.sameAs i r), node (.sameAs j s) => i == j && r == s
  | _, _ => false

end Item

/-- The parts of a sequence that has been read. -/
def nodesOf (items : List Item) : List Node := items.flatMap Item.nodes

/-- The strategy of a repetition, from the sign after its counts. -/
def strategy : Parser Strategy := do
  if ← eat '?' then return .lazy
  if ← eat '+' then return .possessive
  return .greedy

/-- A repetition of an item; places and repetitions cannot be repeated. -/
def repetition (item : Item) (least : Nat) (most : Option Nat) : Parser Item := do
  match item with
  | .node (.anchor _) | .node (.repeat ..) | .node (.repeatOne ..) => malformed
  | item =>
    let strategy ← strategy
    match Item.only? item.dissolved with
    | some t => return .node (.repeatOne least most strategy t)
    | none => return .node (.repeat least most strategy (nodesOf item.dissolved))

/-! ### Alternatives -/

/-- What all alternatives begin with, and the rest of the first and of the others. -/
def splitCommon : List Item → List (List Item) → List Item × List Item × List (List Item)
  | [], others => ([], [], others)
  | i :: first, others =>
    if others.all fun o => (o.head?).any i.isSame then
      let (common, first, others) := splitCommon first (others.map List.tail)
      (i :: common, first, others)
    else ([], i :: first, others)

/-- The members of the set that the alternatives amount to if each is one character. -/
def asItems? (alternatives : List (List Item)) : Option (List SetItem) := do
  let items ← alternatives.mapM fun
    | [.node (.one (.char false _ code))] => some [SetItem.char code]
    | [.node (.one (.set false _ items))] => some items
    | _ => none
  return items.flatten

/-- Alternatives as a sequence: what they begin with, and a choice of how they go on. -/
def choice (rule : CaseRule) (first : List Item) (others : List (List Item)) : List Item :=
  match others with
  | [] => first
  | others =>
    let (common, first, others) := splitCommon first others
    let rest := match asItems? (first :: others) with
      | some items => .one (.ofItems rule items.eraseDups)
      | none => .branches ((first :: others).map nodesOf)
    common ++ [.node rest]

/-! ### Groups -/

/-- Opens the next numbered group. -/
def openGroup (name : Option String) : Parser Nat := do
  let s ← get
  match name with
  | none => set { s with nextGroup := s.nextGroup + 1 }
  | some name =>
    require (Text.isIdentifier name && !s.names.any (·.1 == name))
    set { s with nextGroup := s.nextGroup + 1, names := (name, s.nextGroup) :: s.names }
  return s.nextGroup

def closeGroup (index : Nat) (body : List Node) : Parser Item := do
  modify fun s => { s with closed := (index, widthOfAll s.closed body) :: s.closed }
  return .node (.group index body)

/-- The group of a name. -/
def groupOfName (name : String) : Parser Nat := do
  let some (_, index) := (← get).names.find? (·.1 == name) | malformed
  return index

/-- White space around a number. -/
def isPadding (c : Char) : Bool := Text.isBlank c && !(0x1c ≤ c.toNat && c.toNat ≤ 0x1f)

/-- The digits of a number, with single underscores between them left out. -/
def digitsOf? : List Char → Option (List Nat)
  | [] => none
  | [c] => (Text.digitValue? c).map ([·])
  | c :: '_' :: cs => do return (← Text.digitValue? c) :: (← digitsOf? cs)
  | c :: cs => do return (← Text.digitValue? c) :: (← digitsOf? cs)

/-- A number with an optional sign and white space around it. -/
def groupNumber? (name : List Char) : Option Nat := do
  let trimmed := ((name.dropWhile isPadding).reverse.dropWhile isPadding).reverse
  let digits ← digitsOf? (match trimmed with
    | '+' :: cs => cs
    | cs => cs)
  guard (digits.length ≤ digitLimit)
  return digits.foldl (fun n d => n * 10 + d) 0

/-- Greater numbers of groups are refused wherever they stand. -/
def groupBound : Nat := 0x3fffffff

/-- The group that a condition names, by name or by number. -/
def conditionGroup (name : List Char) : Parser Nat := do
  if Text.isIdentifier (String.ofList name) then groupOfName (String.ofList name)
  else
    let some index := groupNumber? name | malformed
    require (0 < index && index < groupBound)
    modify fun s => { s with conditions := index :: s.conditions }
    return index

/-- Passes over a comment, up to and with `stop`; says whether there was one. -/
def skipPast (stop : Char) : Parser Bool := do
  let rest := (← get).rest
  let found := rest.dropWhile (· != .plain stop)
  require (!found.isEmpty || !rest.contains .lone)
  goTo (found.drop 1)
  return !found.isEmpty

mutual

/-- Alternatives, up to the end of the pattern or an unmatched closing parenthesis. `scope` holds
the options inside a group; outside all groups those of the whole pattern count. -/
def alternatives : Nat → Option Options → Bool → Parser (List Item)
  | 0, _, _ => malformed
  | fuel + 1, scope, first => do
    let items ← members fuel scope first []
    let others ← moreAlternatives fuel scope
    return choice (scope.getD (← get).options).rule items others

/-- The alternatives after the first. -/
def moreAlternatives : Nat → Option Options → Parser (List (List Item))
  | 0, _ => malformed
  | fuel + 1, scope => do
    if ← eat '|' then
      let items ← members fuel scope false []
      return items :: (← moreAlternatives fuel scope)
    return []

/-- The members of a sequence, with those already read in `latest`, the last first. -/
def members : Nat → Option Options → Bool → List Item → Parser (List Item)
  | 0, _, _, _ => malformed
  | fuel + 1, scope, first, latest => do
    let s ← get
    let o := scope.getD s.options
    let one (t : Test) : Item := .node (.one t)
    match s.rest with
    | [] | .plain '|' :: _ | .plain ')' :: _ => return latest.reverse.flatMap Item.dissolved
    | p :: ps =>
      goTo ps
      match p with
      | .lone => malformed
      | .escaped c =>
        let n ← escape o c
        members fuel scope first (.node n :: latest)
      | .plain c =>
        if o.verbose && " \t\n\r\x0b\x0c".toList.contains c then members fuel scope first latest
        else if o.verbose && c = '#' then
          let _ ← skipPast '\n'
          members fuel scope first latest
        else if c = '[' then
          let t ← setTest o
          members fuel scope first (one t :: latest)
        else if "*+?\x7b".toList.contains c then
          match ← counts c with
          | none => members fuel scope first (one (.ofChar o.rule c.toNat) :: latest)
          | some (least, most) =>
            let item :: earlier := latest | malformed
            let r ← repetition item least most
            members fuel scope first (r :: earlier)
        else if c = '.' then members fuel scope first (one (.any o.dotAll) :: latest)
        else if c = '^' then
          let start := if o.multiline then .lineStart else .textStart
          members fuel scope first (.node (.anchor start) :: latest)
        else if c = '$' then
          let stop := if o.multiline then .lineEnd else .lastLineEnd
          members fuel scope first (.node (.anchor stop) :: latest)
        else if c = '(' then
          match ← group fuel o (first && latest.isEmpty) with
          | some item => members fuel scope first (item :: latest)
          | none => members fuel scope first latest
        else members fuel scope first (one (.ofChar o.rule c.toNat) :: latest)

/-- What stands between parentheses, after the opening one; nothing for comments and for options of
the whole pattern, which only the beginning of the pattern may set. -/
def group : Nat → Options → Bool → Parser (Option Item)
  | 0, _, _ => malformed
  | fuel + 1, o, atStart => do
    if !(← eat '?') then
      let index ← openGroup none
      return some (← closeGroup index (nodesOf (← enclosed fuel o)))
    let start := (← get).rest
    match ← takePiece with
    | .plain 'P' =>
      if ← eat '<' then
        let index ← openGroup (some (String.ofList (← takeUntil '>')))
        return some (← closeGroup index (nodesOf (← enclosed fuel o)))
      require (← eat '=')
      let index ← groupOfName (String.ofList (← takeUntil ')'))
      requireGroup index
      return some (.node (.sameAs index o.rule))
    | .plain ':' => return some (.plain (← enclosed fuel o))
    | .plain '>' => return some (.node (.atomic (nodesOf (← enclosed fuel o))))
    | .plain '#' =>
      require (← skipPast ')')
      return none
    | .plain '=' => return some (.node (.ahead false (nodesOf (← enclosed fuel o))))
    | .plain '!' => return some (.node (.ahead true (nodesOf (← enclosed fuel o))))
    | .plain '<' =>
      let sign ← takePiece
      require (sign == .plain '=' || sign == .plain '!')
      let outer := (← get).behindFrom
      modify fun s => { s with behindFrom := some (outer.getD s.nextGroup) }
      let body := nodesOf (← alternatives fuel (some o) false)
      modify ({ · with behindFrom := outer })
      require (← eat ')')
      let (least, most) := widthOfAll (← get).closed body
      let width := if least = most && most < countBound then some least else none
      return some (.node (.behind (sign == .plain '!') width body))
    | .plain '(' =>
      let index ← conditionGroup (← takeUntil ')')
      if (← get).behindFrom.isSome then requireGroup index
      let thenBody ← members fuel (some o) false []
      let elseBody ← if ← eat '|' then members fuel (some o) false [] else pure []
      require (← eat ')')
      return some (.node (.ifMatched index (nodesOf thenBody) (nodesOf elseBody)))
    | _ =>
      goTo start
      match ← options o with
      | none =>
        require atStart
        return none
      | some inner =>
        let body ← enclosed fuel inner
        return some (.underOptions (Item.only? body) (nodesOf body))

/-- Alternatives and the closing parenthesis after them. -/
def enclosed : Nat → Options → Parser (List Item)
  | 0, _ => malformed
  | fuel + 1, o => do
    let body ← alternatives fuel (some o) false
    require (← eat ')')
    return body

end

/-! ### Whole patterns -/

/-- Looks behind must not reach back as far as this. -/
def behindBound : Nat := 0x80000000

/-- The conditions on a whole pattern: ASCII and Unicode are not both set, nothing is left, the
groups of all conditions exist, a template repeats nothing, and looks behind have a width within the
bound. -/
def Source.check (s : Source) (nodes : List Node) : Except Fault Unit := do
  let parts := partsOfAll nodes
  if s.options.ascii && s.options.unicode then throw .conflictingOptions
  if !s.rest.isEmpty || !s.conditions.all (· < s.nextGroup) then throw .malformed
  if s.options.template && parts.any Node.isRepetition then throw .malformed
  let widths := parts.filterMap fun
    | .behind _ width _ => some width
    | _ => none
  if widths.any Option.isNone then throw .malformed
  if widths.any fun w => behindBound ≤ w.getD 0 then throw .tooFarBehind

/-- The regular expression that a pattern denotes. Every step of the descent takes a piece or is one
of five between two pieces, which bounds the depth. -/
def Regex.parse (pattern : String) : Except Fault Regex := do
  let pieces := Piece.ofText pattern.toList
  let read : Parser (List Item) := do
    goTo pieces
    alternatives (5 * pieces.length + 5) none true
  let (items, s) ← read.run { rest := pieces }
  let nodes := nodesOf items
  s.check nodes
  return { nodes, groups := s.nextGroup - 1, least := (widthOfAll s.closed nodes).1 }

end CaseDict.Pattern
