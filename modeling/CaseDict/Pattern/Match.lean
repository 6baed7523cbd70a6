import CaseDict.Pattern.Syntax
import CaseDict.Text.Blank
import CaseDict.Text.Alphanumeric
import CaseDict.Text.Digit
/-! # Matching

A `Matcher` tries to match from a place of a text and goes on with the rest of the expression, which
is a matcher too; alternatives are tried in order until the rest succeeds. What was noted on the way
(`Memory`) outlives a failed attempt, except for what the attempt's beginning restores: group
boundaries above the valid ones are left over, and a possessive repetition goes on where its last
attempt got to. `Regex.verdict` says what comes of matching a whole text. -/

namespace CaseDict.Pattern

/-! ### Tests of characters -/

def Category.holds (kind : Category) (ascii : Bool) (c : Char) : Bool :=
  if ascii && 128 ≤ c.toNat then false
  else match kind with
    | digit => Text.isDigit c
    | space => Text.isBlank c && (!ascii || !(0x1c ≤ c.toNat && c.toNat ≤ 0x1f))
    | word => Text.isWord c

/-- The character belongs to the item. Under a rule it comes in its small form. A single character
beyond the basic plane belongs to a set only as it is written, and a range that reaches beyond the
plane also holds what has its capital in the range. -/
def SetItem.holds (rule : CaseRule) (c : Char) (item : SetItem) : Bool :=
  let n := c.toNat
  match item with
  | char code =>
    if rule = .exact || planeEnd ≤ code then n == code else (rule.same code).contains n
  | range first last =>
    let within (m : Nat) : Bool := first ≤ m && m ≤ last
    if rule = .exact then within n
    else
      (rule.preimages n).any (fun m => m < planeEnd && within m) ||
        (planeEnd ≤ last && (within n || within (Text.capital n)))
  | category kind negated ascii => kind.holds ascii c != negated

namespace Test

def holds (c : Char) : Test → Bool
  | char negated rule code => (rule.same code).contains (rule.small c.toNat) != negated
  | any newline => newline || c != '\n'
  | set negated rule items =>
    items.any (SetItem.holds rule (Char.ofNat (rule.small c.toNat))) != negated

/-- The one character that passes, if the test is for a character as it is written. -/
def char? : Test → Option Nat
  | char false .exact code => some code
  | _ => none

/-- The test can be made before an alternative is begun. -/
def isPlain : Test → Bool
  | char negated rule _ => !negated && rule = .exact
  | set _ rule _ => rule = .exact
  | any _ => false

/-- Counting the characters that pass counts as an attempt that gets behind them. -/
def countsAsAttempt : Test → Bool
  | char _ rule code => 1 < (rule.same code).length
  | set _ rule _ => rule ≠ .exact
  | any _ => false

end Test

/-! ### What is noted -/

/-- What is noted while matching. -/
structure Memory where
  /-- The places where groups begin and end, two for each group. -/
  marks : Array (Option Nat)
  /-- Only marks below this index count. -/
  valid : Nat := 0
  /-- The place that the last attempt got to. -/
  reached : Nat := 0

namespace Memory

/-- Notes a mark. Marks between the valid ones and this one are emptied. -/
def mark (index place : Nat) (m : Memory) : Memory :=
  { m with
    marks := m.marks.mapIdx fun i old =>
      if i = index then some place else if m.valid ≤ i && i < index then none else old
    valid := max m.valid (index + 1) }

/-- The memory `m` after an attempt that began with `saved`. Unless `fully`, the marks keep what the
attempt noted and only the number of valid ones is restored. -/
def restore (fully : Bool) (saved m : Memory) : Memory :=
  { m with
    marks :=
      if fully then
        m.marks.mapIdx fun i now => if i < saved.valid then saved.marks.getD i none else now
      else m.marks
    valid := saved.valid }

/-- Both marks of a group, if they count. -/
def ends? (m : Memory) (group : Nat) : Option (Nat × Nat) :=
  let first := 2 * (group - 1)
  if first + 1 < m.valid then do
    return (← m.marks.getD first none, ← m.marks.getD (first + 1) none)
  else none

/-- Where a group matched: its beginning and end. -/
def span? (m : Memory) (group : Nat) : Option (Nat × Nat) :=
  (m.ends? group).filter fun (start, stop) => start ≤ stop

end Memory

/-- Matches from a place of the text with a memory; says whether that succeeded, and returns the
memory. -/
abbrev Matcher := Nat → Memory → Bool × Memory

/-- The end of a part that is matched by itself. -/
def done : Matcher := fun p m => (true, { m with reached := p })

/-- The end of the whole expression, which must be the end of the text. -/
def doneAt (stop : Nat) : Matcher := fun p m =>
  if p = stop then done p m else (false, m)

/-! ### Places, characters and groups -/

/-- The character at a place passes the test. -/
def passes (text : Array Char) (test : Test) (p : Nat) : Bool :=
  match text[p]? with
  | some c => test.holds c
  | none => false

def isWordAt (text : Array Char) (ascii : Bool) (p : Nat) : Bool :=
  match text[p]? with
  | some c => Category.word.holds ascii c
  | none => false

def Anchor.holds (text : Array Char) (p : Nat) : Anchor → Bool
  | textStart => p = 0
  | lineStart => p = 0 || text[p - 1]? == some '\n'
  | textEnd => p = text.size
  | lastLineEnd => p = text.size || (p + 1 = text.size && text[p]? == some '\n')
  | lineEnd => p = text.size || text[p]? == some '\n'
  | wordBoundary negated ascii =>
    let before := p != 0 && isWordAt text ascii (p - 1)
    text.size != 0 && (before != isWordAt text ascii p) != negated

/-- The texts of length `n` from two places are the same. -/
def sameText (text : Array Char) (rule : CaseRule) (p q : Nat) : Nat → Bool
  | 0 => true
  | n + 1 =>
    match text[p]?, text[q]? with
    | some c, some d =>
      rule.small c.toNat == rule.small d.toNat && sameText text rule (p + 1) (q + 1) n
    | _, _ => false

/-! ### Repeated characters -/

/-- How many characters from a place pass the test, up to `most`. -/
def countOne (text : Array Char) (test : Test) (most : Option Nat) (p : Nat) : Nat :=
  let found := ((text.toList.drop p).takeWhile (test.holds ·)).length
  match most with
  | some n => min n found
  | none => found

/-- The memory after `n` characters from a place have been counted. -/
def Memory.counted (m : Memory) (test : Test) (p n : Nat) : Memory :=
  { m with reached := if test.countsAsAttempt then p + n else p }

/-- Goes on after `least + extra` characters, then after fewer, down to `least`. If the rest begins
with the character `next`, places where another one stands are passed over. -/
def goOnDown (text : Array Char) (fully : Bool) (next : Option Nat) (k : Matcher) (start : Nat)
    (saved : Memory) : Nat → Memory → Bool × Memory
  | extra, m =>
    let p := start + extra
    let (found, m) :=
      if next.all fun code => (text[p]?).any (·.toNat == code) then
        let (found, m) := k p { m with reached := p }
        if found then (true, m) else (false, saved.restore fully m)
      else (false, m)
    if found then (true, m)
    else match extra with
      | 0 => (false, m)
      | extra + 1 => goOnDown text fully next k start saved extra m

/-- Goes on at a place, then after one more character, and so on; at most `most` more, of which
there are at most `left` in the text. -/
def goOnUp (text : Array Char) (fully : Bool) (test : Test) (k : Matcher) (saved : Memory) :
    (left : Nat) → (most : Option Nat) → Matcher
  | left, most, p, m =>
    let (found, m) := k p { m with reached := p }
    if found then (true, m)
    else
      let m := { saved.restore fully m with reached := p }
      match left with
      | 0 => (false, m)
      | left + 1 =>
        if !passes text test p then (false, m)
        else
          let m := m.counted test p 1
          if most = some 0 then (false, m)
          else goOnUp text fully test k saved left (most.map (· - 1)) (p + 1) m

/-- Matches repeated characters. -/
def repeatOne (text : Array Char) (fully : Bool) (least : Nat) (most : Option Nat) (test : Test)
    (strategy : Strategy) (next : Option Nat) (k : Matcher) : Matcher := fun p m =>
  if text.size < p + least then (false, m)
  else match strategy with
    | .greedy =>
      let n := countOne text test most p
      let m := m.counted test p n
      if n < least then (false, m)
      else goOnDown text fully next k (p + least) m (n - least) m
    | .possessive =>
      let n := countOne text test most p
      let m := m.counted test p n
      if n < least then (false, m) else k (p + n) m
    | .lazy =>
      let n := countOne text test (some least) p
      let m := m.counted test p n
      if n < least then (false, m)
      else goOnUp text fully test k m (text.size - p) (most.map (· - least)) (p + least) m

/-! ### Repeated parts -/

/-- Another repetition is allowed after `count` of them, of which the last began at `last`. A
repetition that took nothing is not followed by another. -/
def mayRepeat (most : Option Nat) (count : Nat) (last : Option Nat) (p : Nat) : Bool :=
  most.all (fun bound => count < bound) && last != some p

/-- Tries an attempt; a failed one leaves its beginning as the place reached. -/
def attempt (body : Matcher) : Matcher := fun p m =>
  let (found, m) := body p m
  if found then (true, m) else (false, { m with reached := p })

/-- Repeats `body` as often as it matches, then fewer times; `steps` bounds the repetitions left. -/
def repeatGreedy (body : Matcher → Matcher) (least : Nat) (most : Option Nat) (k : Matcher) :
    (steps count : Nat) → Option Nat → Matcher
  | 0, _, _ => k
  | steps + 1, count, last => fun p m =>
    let m := { m with reached := p }
    if count < least then attempt (body (repeatGreedy body least most k steps (count + 1) last)) p m
    else
      let (found, m) :=
        if mayRepeat most count last p then
          let (found, after) :=
            attempt (body (repeatGreedy body least most k steps (count + 1) (some p))) p m
          (found, if found then after else m.restore true after)
        else (false, m)
      if found then (true, m) else attempt k p m

/-- Repeats `body` as few times as it can, then more often. -/
def repeatLazy (body : Matcher → Matcher) (fully : Bool) (least : Nat) (most : Option Nat)
    (k : Matcher) : (steps count : Nat) → Option Nat → Matcher
  | 0, _, _ => k
  | steps + 1, count, last => fun p m =>
    let m := { m with reached := p }
    if count < least then
      attempt (body (repeatLazy body fully least most k steps (count + 1) last)) p m
    else
      let (found, after) := attempt k p m
      if found then (true, after)
      else
        let m := m.restore fully after
        if mayRepeat most count last p then
          attempt (body (repeatLazy body fully least most k steps (count + 1) (some p))) p m
        else (false, m)

/-- Repeats `body` as often as it matches, each time in the first way possible. The rest begins at
the place reached, also by the attempt that failed. -/
def repeatPossessive (body : Matcher) (least : Nat) (most : Option Nat) :
    (steps count : Nat) → Option Nat → Memory → Bool × Memory
  | 0, _, _, m => (true, m)
  | steps + 1, count, last, m =>
    if count < least then
      let (found, after) := body m.reached m
      if found then repeatPossessive body least most steps (count + 1) last after
      else (false, after)
    else if mayRepeat most count last m.reached then
      let (found, after) := body m.reached m
      if found then repeatPossessive body least most steps (count + 1) (some m.reached) after
      else (true, m.restore true after)
    else (true, m)

/-! ### Regular expressions -/

/-- Goes on at `p` if `body` matches from `start`, or if it does not. -/
def look (negated fully : Bool) (body k : Matcher) (p start : Nat) (m : Memory) : Bool × Memory :=
  let (found, after) := body start { m with reached := start }
  if !negated then (if found then k p after else (false, after))
  else if found then (false, after)
  else k p (m.restore fully after)

/-- The test with which a sequence begins. -/
def firstTest? : List Node → Option Test
  | .one t :: _ => some t
  | _ => none

/-- The first character that the alternative takes does not stand at the place. -/
def isBarred (text : Array Char) (p : Nat) (nodes : List Node) : Bool :=
  (firstTest? nodes).any fun t => t.isPlain && !passes text t p

mutual

/-- Matches a part and goes on with `k`. `looped` says that it stands inside a repeated part, and
`next` is the character with which the rest begins. -/
def matchNode (text : Array Char) (looped : Bool) (next : Option Nat) : Node → Matcher → Matcher
  | .one test, k => fun p m => if passes text test p then k (p + 1) m else (false, m)
  | .anchor place, k => fun p m => if place.holds text p then k p m else (false, m)
  | .branches alternatives, k => fun p m => matchBranches text looped m alternatives k p m
  | .repeatOne least most strategy test, k =>
    repeatOne text looped least most test strategy next k
  | .repeat least most strategy body, k => fun p m =>
    let steps := least + (text.size - p) + 2
    match strategy with
    | .greedy => repeatGreedy (matchAll text true none body) least most k steps 0 none p m
    | .lazy => repeatLazy (matchAll text true none body) looped least most k steps 0 none p m
    | .possessive =>
      let (found, m) := repeatPossessive (matchAll text looped none body done) least most steps 0
        none { m with reached := p }
      if found then k m.reached m else (false, { m with reached := p })
  | .group index body, k => fun p m =>
    matchAll text looped none body (fun q m => k q (m.mark (2 * (index - 1) + 1) q)) p
      (m.mark (2 * (index - 1)) p)
  | .sameAs index rule, k => fun p m =>
    match m.span? index with
    | some (start, stop) =>
      if sameText text rule start p (stop - start) then k (p + (stop - start)) m else (false, m)
    | none => (false, m)
  | .ahead negated body, k => fun p m =>
    look negated looped (matchAll text looped none body done) k p p m
  | .behind negated width body, k => fun p m =>
    match width with
    | none => (false, m)
    | some width =>
      if width ≤ p then look negated looped (matchAll text looped none body done) k p (p - width) m
      else if negated then k p m
      else (false, m)
  | .atomic body, k => fun p m =>
    let (found, m) := attempt (matchAll text looped none body done) p { m with reached := p }
    if found then k m.reached m else (false, m)
  | .ifMatched index thenBody elseBody, k => fun p m =>
    if (m.span? index).isSome then
      matchAll text looped (if elseBody.isEmpty then next else none) thenBody k p m
    else matchAll text looped next elseBody k p m

/-- Matches parts one after the other. -/
def matchAll (text : Array Char) (looped : Bool) (next : Option Nat) :
    List Node → Matcher → Matcher
  | [], k => k
  | [n], k => matchNode text looped next n k
  | n :: m :: ns, k =>
    matchNode text looped ((firstTest? (m :: ns)).bind Test.char?) n
      (matchAll text looped next (m :: ns) k)

/-- Matches the first alternative after which the rest succeeds; `saved` is the memory from before
them. -/
def matchBranches (text : Array Char) (looped : Bool) (saved : Memory) :
    List (List Node) → Matcher → Matcher
  | [], _ => fun _ m => (false, m)
  | nodes :: more, k => fun p m =>
    if isBarred text p nodes then matchBranches text looped saved more k p m
    else
      let (found, after) := matchAll text looped none nodes k p { m with reached := p }
      if found then (true, after)
      else matchBranches text looped saved more k p (saved.restore looped after)

end

/-- What comes of matching a whole text. -/
inductive Verdict where
  | matched
  | unmatched
  /-- The text matches, but a group would end before it begins. -/
  | inconsistent
  deriving DecidableEq, Repr

/-- Matches a whole text. One that is shorter than the least width is not even tried. -/
def Regex.verdict (r : Regex) (text : String) : Verdict :=
  let text := text.toList.toArray
  if text.size < r.least then .unmatched
  else
    let (found, m) := matchAll text false none r.nodes (doneAt text.size) 0
      { marks := Array.replicate (2 * r.groups) none }
    if !found then .unmatched
    else if (List.range r.groups).any fun i => (m.ends? (i + 1)).any fun (a, b) => b < a then
      .inconsistent
    else .matched

/-- The regular expression matches the whole text. -/
def Regex.matches (r : Regex) (text : String) : Bool := r.verdict text = .matched

end CaseDict.Pattern
