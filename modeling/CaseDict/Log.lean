import CaseDict.Text.Quoted
/-! # What a read reports

Beside its result a read reports what a user should know, and which paths it asked the file system
for. -/

namespace CaseDict

inductive Event where
  /-- An entry was ignored, its keyword being defined already. -/
  | redefinitionIgnored (keyword : String) (line firstLine : Int)
  /-- A file to be included stands at none of the places searched. -/
  | includeMissing (name : String) (searched : List String)
  /-- The file system was asked for a path. This is never shown. -/
  | consulted (path : String)
  deriving DecidableEq

/-- How severe an event is. -/
inductive Severity where
  | warning
  | error
  deriving DecidableEq, Repr

def Severity.label : Severity → String
  | warning => "WARNING"
  | error => "ERROR"

/-- A line of the log. -/
structure Event.Record where
  severity : Severity
  /-- The part of the program that speaks. -/
  channel : String
  message : String
  deriving DecidableEq

/-- The record of an event that is shown. -/
def Event.record? : Event → Option Event.Record
  | redefinitionIgnored keyword line firstLine =>
    some ⟨.warning, "foamdict.expansion.entry_builder",
      "Ignoring redefinition of " ++ Text.quote keyword ++ " at line " ++ toString line ++
        "; first defined at line " ++ toString firstLine⟩
  | includeMissing name searched =>
    some ⟨.error, "foamdict.directives.include",
      "Include file " ++ Text.quote name ++ " not found (searched: " ++ ", ".intercalate searched ++
        ")"⟩
  | consulted _ => none

/-- The paths that the file system was asked for. -/
def Event.paths (log : List Event) : List String :=
  log.filterMap fun
    | consulted path => some path
    | _ => none

/-- What a log shows. -/
def Event.records (log : List Event) : List Event.Record := log.filterMap Event.record?

end CaseDict
