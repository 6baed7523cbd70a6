/-! # Hangul syllables

A syllable consists of a leading sound, a vowel, and perhaps a trailing sound. The syllables stand
in the order of their sounds, so the sounds can be read off the code point. -/

namespace CaseDict.Text.Hangul

def firstSyllable : Nat := 0xac00
def firstLeading : Nat := 0x1100
def firstVowel : Nat := 0x1161

/-- The first trailing sound follows this code point. -/
def beforeTrailing : Nat := 0x11a7

def leadingCount : Nat := 19
def vowelCount : Nat := 21

/-- The number of trailing sounds, counting that there is none. -/
def trailingCount : Nat := 28

/-- The syllable of three sounds, each given by its number; trailing sound zero is none. -/
def syllable (leading vowel trailing : Nat) : Nat :=
  firstSyllable + (leading * vowelCount + vowel) * trailingCount + trailing

def isSyllable (n : Nat) : Bool :=
  firstSyllable ≤ n && n < syllable leadingCount 0 0

/-- The sounds of a syllable, as characters. -/
def sounds (n : Nat) : List Nat :=
  let i := n - firstSyllable
  let t := i % trailingCount
  [firstLeading + i / (vowelCount * trailingCount), firstVowel + i / trailingCount % vowelCount] ++
    if t = 0 then [] else [beforeTrailing + t]

/-- The syllable of a leading sound and a vowel, or of such a syllable and a trailing sound. -/
def composed? (m n : Nat) : Option Nat :=
  if firstLeading ≤ m && m < firstLeading + leadingCount && firstVowel ≤ n &&
      n < firstVowel + vowelCount then
    some (syllable (m - firstLeading) (n - firstVowel) 0)
  else if isSyllable m && (m - firstSyllable) % trailingCount = 0 && beforeTrailing < n &&
      n < beforeTrailing + trailingCount then
    some (m + (n - beforeTrailing))
  else none

end CaseDict.Text.Hangul
