import CaseDict.Error
/-! # Directives and their registry

A directive is what `#name` stands for. A registry maps names to directives; it is filled while it
is open, and a frozen one is only read. -/

namespace CaseDict

inductive Directive where
  | calculate
  | negate
  /-- Reads a file, which may be missing if it is optional. -/
  | includeFile (optional : Bool)
  | ifEqual
  | ifTrue
  | otherwise
  | endIf
  | remove
  | inputMode
  /-- A directive that can be used nowhere. -/
  | blank
  deriving DecidableEq, Repr

namespace Directive

/-- The name a directive has by itself. -/
def name : Directive → String
  | calculate => "calc"
  | negate => "neg"
  | includeFile false => "include"
  | includeFile true => "includeIfPresent"
  | ifEqual => "ifeq"
  | ifTrue => "if"
  | otherwise => "else"
  | endIf => "endif"
  | remove => "remove"
  | inputMode => "inputMode"
  | blank => ""

/-- The label of a directive in diagnostics. -/
def label : Directive → String
  | calculate => "CalcDirective"
  | negate => "NegDirective"
  | includeFile false => "IncludeDirective"
  | includeFile true => "IncludeIfPresentDirective"
  | ifEqual => "IfEqDirective"
  | ifTrue => "IfDirective"
  | otherwise => "ElseDirective"
  | endIf => "EndifDirective"
  | remove => "RemoveDirective"
  | inputMode => "InputModeDirective"
  | blank => "Directive"

def describe (d : Directive) : String := d.label ++ "(name=" ++ Text.quote d.name ++ ")"

/-- All directives that have a name. -/
def named : List Directive :=
  [calculate, negate, includeFile false, includeFile true, ifEqual, ifTrue, otherwise, endIf,
    remove, inputMode]

end Directive

/-- Why a directive is not registered. -/
inductive RegistryError where
  | frozen
  | nameless (d : Directive)
  deriving DecidableEq

def RegistryError.message : RegistryError → String
  | frozen => "directive registry is frozen"
  | nameless d => d.describe ++ " has no name"

/-- Directives by name, in the order of the names. -/
structure Registry where
  entries : List (String × Directive) := []
  frozen : Bool := false

namespace Registry

/-- Adds or replaces a name in a list ordered by names. -/
def insert (key : String) (d : Directive) : List (String × Directive) → List (String × Directive)
  | [] => [(key, d)]
  | (k, e) :: rest =>
    if key < k then (key, d) :: (k, e) :: rest
    else if key = k then (key, d) :: rest
    else (k, e) :: insert key d rest

/-- Registers a directive under a name, or under its own if none is given. -/
def register (r : Registry) (d : Directive) (key : String := "") : Except RegistryError Registry :=
  let key := if key.isEmpty then d.name else key
  if r.frozen then .error .frozen
  else if key.isEmpty then .error (.nameless d)
  else .ok { r with entries := insert key d r.entries }

def freeze (r : Registry) : Registry := { r with frozen := true }

/-- An open registry with the same directives. -/
def copy (r : Registry) : Registry := { r with frozen := false }

def names (r : Registry) : List String := r.entries.map (·.1)

def find? (r : Registry) (key : String) : Option Directive :=
  (r.entries.find? (·.1 == key)).map (·.2)

/-- The directive of a name; an unknown one is an error at the place given. -/
def get (r : Registry) (key : String) (line : Int) (source : Option String) :
    Except Failure Directive :=
  match r.find? key with
  | some d => .ok d
  | none => .error (.diagnostic ⟨.unknownDirective key, line, source⟩)

/-- The frozen registry of all named directives. -/
def standard : Registry :=
  { entries := Directive.named.foldl (fun es d => insert d.name d es) [], frozen := true }

end Registry

end CaseDict
