import CaseDict.Statement.Directive
/-! # Reading dictionaries

A text or a file is read into a dictionary that has the text's name as its keyword. A read either
gives the whole dictionary or fails; it reports its events in both cases. -/

namespace CaseDict.Reader

open Expansion Statement

/-- Reads statements at a depth of expansion and a level of nesting. -/
def entries (setup : Setup) (depth : Int) (nesting : Nat) (closing : Option Heading)
    (stops : List String) (i : Input) : ReadM (Taken (Option Token) i) :=
  let budget := setup.settings.budget depth
  readEntries setup budget (runDirective setup budget) nesting closing stops i

/-- Reads one statement at a depth of expansion and a level of nesting. -/
def statement (setup : Setup) (depth : Int) (i : Input) (nesting : Nat := 0) :
    ReadM (Taken (List Entry) i) := do
  let (t, rest) ← i.expect "keyword"
  let budget := setup.settings.budget depth
  let (es, more) ← readStatement setup budget (runDirective setup budget) nesting t rest.input
  return (es, (rest.onward more).toRest)

/-- The dictionary that all statements of an input make. -/
def read (setup : Setup) (i : Input) : Except Failure Entry × List Event :=
  let start : ReadState := ⟨.fresh [] [], setup.settings.mode, []⟩
  let (result, s) := (entries setup 0 0 none [] i).run.run start
  let made := result.map fun (_, rest) =>
    .dictionary ⟨i.name, false, 1, rest.input.line⟩ s.scope.entries
  (made, s.log)

/-- Reads a text. -/
def ofText (setup : Setup) (text : String) (name : String := "<inline>") :
    Except Failure Entry × List Event := read setup (.ofText name text)

/-- Reads a file. -/
def ofFile (setup : Setup) (path : String) : Except Failure Entry × List Event :=
  let p := Path.ofString path
  let (result, log) := match setup.files.readText p with
    | .ok text => read setup (.ofText p.text text)
    | .error f => (.error f, [])
  (result, .consulted p.text :: log)

end CaseDict.Reader
