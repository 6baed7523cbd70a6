import CaseDict.Text.CharacterName.Alias
import CaseDict.Text.CharacterName.Ancient
import CaseDict.Text.CharacterName.Cuneiform
import CaseDict.Text.CharacterName.EastAsian
import CaseDict.Text.CharacterName.Gesture
import CaseDict.Text.CharacterName.Indic
import CaseDict.Text.CharacterName.MiddleEastern
import CaseDict.Text.CharacterName.Notation
import CaseDict.Text.CharacterName.Operator
import CaseDict.Text.CharacterName.Phonetic
import CaseDict.Text.CharacterName.Pictograph
import CaseDict.Text.CharacterName.Presentation
import CaseDict.Text.CharacterName.Shape
import CaseDict.Text.CharacterName.Syllabic
import CaseDict.Text.CharacterName.Technical
import CaseDict.Text.CharacterName.Western
import CaseDict.Text.Hangul
import CaseDict.Text.Ranges
/-! # Names of characters

A character is known by its name (Unicode 14): by one that a listing gives, by the sounds of a
Hangul syllable, or by the code point of an ideograph. The letters of the first kind of name may be
small ones. -/

namespace CaseDict.Text

namespace CharacterName

/-! ### Hangul syllables -/

def syllablePrefix : String := "HANGUL SYLLABLE "

def leadingSounds : List String :=
  ["G", "GG", "N", "D", "DD", "R", "M", "B", "BB", "S", "SS", "", "J", "JJ", "C", "K", "T", "P",
   "H"]

def vowels : List String :=
  ["A", "AE", "YA", "YAE", "EO", "E", "YEO", "YE", "O", "WA", "WAE", "OE", "YO", "U", "WEO", "WE",
   "WI", "YU", "EU", "YI", "I"]

def trailingSounds : List String :=
  ["", "G", "GG", "GS", "N", "NJ", "NH", "D", "L", "LG", "LM", "LB", "LS", "LT", "LP", "LH", "M",
   "B", "BS", "S", "SS", "NG", "J", "C", "K", "T", "P", "H"]

/-- The longest of the sounds with which a text begins, by its number in the list, and what follows
it. -/
def takeSound? (sounds : List String) (text : List Char) : Option (Nat × List Char) :=
  let found := sounds.zipIdx.filter fun (sound, _) => sound.toList.isPrefixOf text
  found.foldl (fun best (sound, i) =>
    if best.all fun (_, rest) => text.length < rest.length + sound.length then
      some (i, text.drop sound.length)
    else best) none

/-- The syllable of three sounds, of which the last may be missing. -/
def syllable? (sounds : List Char) : Option Nat := do
  let (l, rest) ← takeSound? leadingSounds sounds
  let (v, rest) ← takeSound? vowels rest
  let (t, rest) ← takeSound? trailingSounds rest
  guard rest.isEmpty
  return Hangul.syllable l v t

/-! ### Ideographs -/

def ideographPrefix : String := "CJK UNIFIED IDEOGRAPH-"

/-- The ideographs that are named by their code points. -/
def ideographs : Ranges :=
  [(0x3400, 0x4dbf), (0x4e00, 0x9fff), (0x20000, 0x2a6df), (0x2a700, 0x2b738), (0x2b740, 0x2b81d),
   (0x2b820, 0x2cea1), (0x2ceb0, 0x2ebe0), (0x30000, 0x3134a)]

/-- The ideograph whose code point is written in four or five digits. -/
def ideograph? (digits : List Char) : Option Nat := do
  guard (digits.length = 4 || digits.length = 5)
  guard (digits.all fun c => isHexDigit c && !c.isLower)
  guard (ideographs.mem (valueIn 16 digits))
  return valueIn 16 digits

/-! ### Listed names -/

def listings : List Listing :=
  [aliases, western, middleEastern, indic, syllabic, phonetic, technical, shape, operator,
   eastAsian, presentation, ancient, cuneiform, notations, gesture, pictograph]

/-- The character of a listed name. -/
def listed? (name : String) : Option Nat :=
  listings.findSome? (code? ((name.map Char.toUpper).splitOn " "))

end CharacterName

/-- The character of a name. -/
def namedCharacter? (name : String) : Option Char :=
  let after (beginning : String) : List Char := name.toList.drop beginning.length
  Char.ofNat <$>
    if CharacterName.syllablePrefix.isPrefixOf name then
      CharacterName.syllable? (after CharacterName.syllablePrefix)
    else if CharacterName.ideographPrefix.isPrefixOf name then
      CharacterName.ideograph? (after CharacterName.ideographPrefix)
    else CharacterName.listed? name

end CaseDict.Text
