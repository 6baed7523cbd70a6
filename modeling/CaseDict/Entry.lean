import CaseDict.Pattern
import CaseDict.Error
/-! # Entries

A dictionary is an ordered list of entries, and an entry is a keyword with either tokens (a
primitive entry) or a dictionary. Entries are kept in the order in which they were written; of
several with one keyword the newest, which stands last, shadows the others. -/

namespace CaseDict

/-- What every entry has: its keyword, whether that is a pattern, and the lines it was read from. -/
structure Heading where
  keyword : String
  isPattern : Bool := false
  startLine : Int := -1
  endLine : Int := -1
  deriving DecidableEq

namespace Heading

/-- The keyword is plain and equals the name. -/
def isNamed (h : Heading) (name : String) : Bool := !h.isPattern && h.keyword == name

/-- The keyword is a pattern that selects the name. -/
def isMatched (h : Heading) (name : String) : Bool := h.isPattern && Pattern.selects h.keyword name

/-- What comes of matching the name with the keyword. -/
def verdict (h : Heading) (name : String) : Pattern.Verdict :=
  if h.isPattern then Pattern.verdict h.keyword name
  else if h.keyword == name then .matched else .unmatched

/-- The keyword selects the name. -/
def selects (h : Heading) (name : String) : Bool := h.verdict name = .matched

/-- A pattern keyword must be a regular expression. -/
def failure? (h : Heading) : Option Failure :=
  if h.isPattern then
    (Pattern.fault? h.keyword).map fun
      | .malformed => .unplaced (.malformedPattern h.keyword) h.startLine
      | why => .pattern why
  else none

/-- The heading, unless its keyword is a malformed pattern. -/
def checked (h : Heading) : Except Failure Heading :=
  match h.failure? with
  | none => .ok h
  | some f => .error f

end Heading

/-- An entry of a dictionary. -/
inductive Entry where
  | primitive (head : Heading) (tokens : List Token)
  | dictionary (head : Heading) (entries : List Entry)

namespace Entry

def head : Entry → Heading
  | primitive h _ | dictionary h _ => h

def keyword (e : Entry) : String := e.head.keyword

def isDictionary : Entry → Bool
  | dictionary .. => true
  | primitive .. => false

/-- The entries of a dictionary. -/
def inner? : Entry → Option (List Entry)
  | dictionary _ es => some es
  | primitive .. => none

def withHead (h : Heading) : Entry → Entry
  | primitive _ ts => primitive h ts
  | dictionary _ es => dictionary h es

mutual

/-- The headings of an entry and of everything in it, outer ones first. -/
def headings : Entry → List Heading
  | primitive h _ => [h]
  | dictionary h es => h :: headingsOf es

def headingsOf : List Entry → List Heading
  | [] => []
  | e :: es => e.headings ++ headingsOf es

end

/-- A copy of the entry, which exists if all patterns in it are well formed. -/
def copy (e : Entry) : Except Failure Entry :=
  match e.headings.findSome? Heading.failure? with
  | some f => .error f
  | none => .ok e

/-- The entries whose keyword differs from `keyword`. -/
def without (keyword : String) (es : List Entry) : List Entry := es.filter (·.keyword != keyword)

/-- The newest entry of that keyword, pattern or not. -/
def newest? (keyword : String) (es : List Entry) : Option Entry :=
  es.reverse.find? (·.keyword == keyword)

/-- The keywords of entries in order, each once. -/
def keys (es : List Entry) : List String := (es.map keyword).eraseDups

/-- Changes the last member for which `change` has a result. -/
def changeLast (change : Entry → Option Entry) (es : List Entry) : Option (List Entry) :=
  match es with
  | [] => none
  | e :: rest =>
    match changeLast change rest with
    | some rest => some (e :: rest)
    | none => (change e).map (· :: rest)

/-! ### Merging -/

/-- The lines of a dictionary after another was merged into it. -/
def mergedHead (own other : Heading) : Heading :=
  if 0 ≤ other.endLine then { own with endLine := max own.endLine other.endLine } else own

mutual

/-- Merges entries into those of a dictionary, one after the other. -/
def mergeAll (own : List Entry) : List Entry → List Entry
  | [] => own
  | e :: es => mergeAll (mergeOne own e) es

/-- Merges one entry into those of a dictionary: a dictionary into the newest plain entry of its
keyword if that is a dictionary too; any other entry replaces all of its keyword. -/
def mergeOne (own : List Entry) : Entry → List Entry
  | primitive h ts => without h.keyword own ++ [primitive h ts]
  | dictionary h es =>
    let replaced := without h.keyword own ++ [dictionary h es]
    match own.reverse.find? (·.head.isNamed h.keyword) with
    | some (dictionary ..) =>
      let merged := changeLast (fun e => if e.head.isNamed h.keyword then e.inner?.map fun inner =>
        dictionary (mergedHead e.head h) (mergeAll inner es) else none) own
      merged.getD replaced
    | _ => replaced

end

/-- Merges a dictionary into another. -/
def merge (own other : Entry) : Entry :=
  match own, other with
  | dictionary h es, dictionary h' es' => dictionary (mergedHead h h') (mergeAll es es')
  | own, _ => own

end Entry

end CaseDict
