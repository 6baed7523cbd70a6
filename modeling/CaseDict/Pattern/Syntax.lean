import CaseDict.Text.LetterCase
/-! # Regular expressions

The syntax trees of keyword patterns. Options such as "ignore case" are resolved into the nodes they
concern, so a tree is matched without further settings. -/

namespace CaseDict.Pattern

/-- Which letters count as the same. -/
inductive CaseRule where
  /-- Every letter only as itself. -/
  | exact
  /-- The two cases of the letters of ASCII. -/
  | ascii
  /-- The cases of all letters. -/
  | unicode
  deriving DecidableEq, Repr

namespace CaseRule

/-- The form in which characters are compared. -/
def small : CaseRule → Nat → Nat
  | exact, n => n
  | ascii, n => if n < 0x80 then Text.small n else n
  | unicode, n => Text.small n

/-- The forms that count as that of the character. -/
def same : CaseRule → Nat → List Nat
  | unicode, n => Text.matesOf (Text.small n)
  | rule, n => [rule.small n]

def isCased : CaseRule → Nat → Bool
  | exact, _ => false
  | ascii, n => n < 0x80 && Text.isCased n
  | unicode, n => Text.isCased n

/-- Some character between two code points is cased. -/
def anyCased (rule : CaseRule) (low high : Nat) : Bool :=
  match rule with
  | exact => false
  | ascii => Text.anyCased low (min high 0x7f)
  | unicode => Text.anyCased low high

/-- The characters that are compared as `n`. -/
def preimages : CaseRule → Nat → List Nat
  | exact, n => [n]
  | ascii, n => if n < 0x80 then (Text.withSmall n).filter (· < 0x80) else [n]
  | unicode, n => (Text.matesOf n).flatMap Text.withSmall

end CaseRule

/-- A class of characters; `ascii` narrows it to ASCII. -/
inductive Category where
  | digit
  | space
  | word
  deriving DecidableEq, Repr

/-- A member of a set in square brackets. -/
inductive SetItem where
  | char (code : Nat)
  | range (first last : Nat)
  | category (kind : Category) (negated ascii : Bool)
  deriving DecidableEq, Repr

/-- A condition on one character. The rule is `exact` where no letter is concerned. -/
inductive Test where
  | char (negated : Bool) (rule : CaseRule) (code : Nat)
  /-- Any character, a newline only if `newline`. -/
  | any (newline : Bool)
  | set (negated : Bool) (rule : CaseRule) (items : List SetItem)
  deriving DecidableEq, Repr

/-- The first code point beyond the basic plane. -/
def planeEnd : Nat := 0x10000

/-- The cases of letters concern the item. Characters beyond the basic plane always count as
letters. -/
def SetItem.isConcerned (rule : CaseRule) : SetItem → Bool
  | char code => rule ≠ .exact && (planeEnd ≤ code || rule.isCased code)
  | range first last => rule ≠ .exact && (planeEnd ≤ last || rule.anyCased first last)
  | category .. => false

/-- The test for one character, or for any but this one. -/
def Test.ofChar (rule : CaseRule) (code : Nat) (negated : Bool := false) : Test :=
  .char negated (if rule.isCased code then rule else .exact) code

/-- The test for the members of a set, or for all other characters. -/
def Test.ofItems (rule : CaseRule) (items : List SetItem) (negated : Bool := false) : Test :=
  .set negated (if items.any (·.isConcerned rule) then rule else .exact) items

/-- Places that match without taking a character. -/
inductive Anchor where
  | textStart
  | lineStart
  | textEnd
  /-- The end, also before a newline at the end. -/
  | lastLineEnd
  | lineEnd
  | wordBoundary (negated ascii : Bool)
  deriving DecidableEq, Repr

/-- The order in which a repetition tries its counts. -/
inductive Strategy where
  /-- As many as possible first. -/
  | greedy
  /-- As few as possible first. -/
  | lazy
  /-- As many as possible, and no fewer later. -/
  | possessive
  deriving DecidableEq, Repr

/-- A part of a regular expression; the parts of a list are matched one after the other. -/
inductive Node where
  | one (test : Test)
  | anchor (place : Anchor)
  | branches (alternatives : List (List Node))
  /-- Characters that pass a test, at least `least` and at most `most` of them, without a bound if
  there is none. -/
  | repeatOne (least : Nat) (most : Option Nat) (strategy : Strategy) (test : Test)
  | repeat (least : Nat) (most : Option Nat) (strategy : Strategy) (body : List Node)
  /-- A group, which remembers where it matched. -/
  | group (index : Nat) (body : List Node)
  /-- The text that a group matched. -/
  | sameAs (index : Nat) (rule : CaseRule)
  /-- What follows must match, or must not; nothing is taken. -/
  | ahead (negated : Bool) (body : List Node)
  /-- The last `width` characters must match, or must not. A body of various widths has none. -/
  | behind (negated : Bool) (width : Option Nat) (body : List Node)
  /-- Matched in the first way possible and in no other. -/
  | atomic (body : List Node)
  /-- One branch if the group has matched, the other if not. -/
  | ifMatched (index : Nat) (thenBody elseBody : List Node)
  deriving Repr

/-- A regular expression. -/
structure Regex where
  nodes : List Node
  /-- The number of groups; they are numbered from one. -/
  groups : Nat
  /-- The least number of characters that it takes. -/
  least : Nat
  deriving Repr

/-- Why a text is no regular expression. -/
inductive Fault where
  | malformed
  /-- A count of repetitions is beyond the bound. -/
  | countTooLarge
  /-- A count of repetitions has more digits than are read. -/
  | numeralTooLong
  /-- The options for ASCII and for Unicode are both set for the whole. -/
  | conflictingOptions
  /-- A look behind reaches back beyond the bound. -/
  | tooFarBehind
  deriving DecidableEq, Repr

/-- The wording, for the faults that have one of their own. -/
def Fault.message? : Fault → Option String
  | conflictingOptions => some "ASCII and UNICODE flags are incompatible"
  | tooFarBehind => some "invalid SRE code"
  | malformed | countTooLarge | numeralTooLong => none

end CaseDict.Pattern
