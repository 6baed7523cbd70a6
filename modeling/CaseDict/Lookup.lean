import CaseDict.Entry
/-! # Looking names up

A name is looked up in a chain of frames, the innermost dictionary first. In each frame plain
keywords go before patterns and newer entries before older ones. A scoped name is a path: `a/b` goes
on inside the dictionary found, `../a` begins one dictionary further out, `!a` at the outermost one.

Entries are inspected through an `Inspection`, so that the same rules hold for trees and for entries
that are stored elsewhere. -/

namespace CaseDict

/-- How entries are inspected. -/
structure Inspection (ε : Type) where
  head : ε → Heading
  /-- The entries of a dictionary; none for a primitive entry. -/
  inner? : ε → Option (List ε)

/-- Trees are inspected directly. -/
def Entry.inspection : Inspection Entry := ⟨Entry.head, Entry.inner?⟩

/-- A dictionary as lookups see it. A transparent one stands for the dictionary around it, into
which its entries will go. -/
structure Frame (ε : Type) where
  entries : List ε
  transparent : Bool := false

namespace Lookup

variable {ε : Type} (view : Inspection ε)

/-- The newest entry with that plain keyword. -/
def findNamed (name : String) (es : List ε) : Option ε :=
  es.reverse.find? fun e => (view.head e).isNamed name

/-- The newest entry whose pattern selects the name. -/
def findMatched (name : String) (es : List ε) : Option ε :=
  es.reverse.find? fun e => (view.head e).isMatched name

/-- The entry that a name denotes in one dictionary. -/
def find (name : String) (es : List ε) : Option ε :=
  match findNamed view name es with
  | some e => some e
  | none => findMatched view name es

/-- The entry that a name denotes in the innermost frame that has one. -/
def findOutward (name : String) (frames : List (Frame ε)) : Option ε :=
  frames.findSome? fun f => find view name f.entries

/-- Goes from an entry along the names of a path. -/
def descend : ε → List String → Option ε
  | e, [] => some e
  | e, name :: path => do descend (← find view name (← view.inner? e)) path

/-- The frames around the dictionary that the first frame stands for. -/
def outward (frames : List (Frame ε)) : List (Frame ε) :=
  ((frames.dropWhile (·.transparent)).drop 1).dropWhile (·.transparent)

/-- The components of a path; empty ones do not count. -/
def components (path : List Char) : List String :=
  (path.splitOn '/').filterMap fun part =>
    if part.isEmpty then none else some (String.ofList part)

/-- Follows a path from the frames; once it leaves them outwards or begins at the outermost, the
first name is searched in one frame only. -/
def follow (frames : List (Frame ε)) (everywhere : Bool) : List String → Option ε
  | [] => none
  | name :: path =>
    if name = ".." then follow (outward frames) false path
    else match frames with
      | [] => none
      | f :: _ => do
        let first ← if everywhere then findOutward view name frames else find view name f.entries
        descend view first path

/-- The entry that a scoped name denotes. -/
def scopedEntry (frames : List (Frame ε)) (name : String) : Option ε :=
  match name.toList with
  | '!' :: path => follow view frames.getLast?.toList false (components path)
  | path => follow view frames true (components path)

end Lookup

end CaseDict
