import CaseDict.CommandLine.Options
import CaseDict.Json
import CaseDict.Reader
import CaseDict.Writer
/-! # The command line

The program reads a dictionary file and prints it fully expanded: in its own notation, as JSON, or
as a list of tokens; the whole of it or one entry. What it does to the world is an `Outcome`. -/

namespace CaseDict.CommandLine

/-- What a run prints and writes, and its exit code. -/
structure Outcome where
  code : Nat
  stdout : String := ""
  stderr : String := ""
  /-- A file to be written, by its name. -/
  written : Option (String × String) := none

/-- An entry in a format; `whole` is the dictionary that the file is. -/
def render (format : Format) (whole : Bool) (e : Entry) : String :=
  match format with
  | .foam => Writer.write e (!whole)
  | .json => Json.ofValue e.value ++ "\n"
  | .info =>
    match e with
    | .primitive h ts => Writer.info h ts ++ "\n"
    | .dictionary _ es => String.join (es.filterMap fun
      | .primitive h ts => some (Writer.info h ts ++ "\n")
      | .dictionary .. => none)

/-- A line on the error stream. -/
def line (s : String) : String := s ++ "\n"

def logText (log : List Event) : String :=
  String.join ((Event.records log).map fun r =>
    line (r.severity.label ++ " " ++ r.channel ++ ": " ++ r.message))

/-- The settings of a read. -/
def Options.settings (o : Options) (environment : List (String × String)) : Settings :=
  { mode := o.mode, maxExpansion := o.maxExpansion, includePaths := o.includePaths
    environment := if o.useEnvironment then environment else [] }

/-- What is done with the entry to be printed. -/
def Options.print (o : Options) (report text : String) : Outcome :=
  if o.output = "-" then { code := 0, stdout := text, stderr := report }
  else
    { code := 0, stderr := report ++ line ("  wrote " ++ o.output)
      written := some (o.output, text) }

/-- Reads the file and prints what is asked for. Reading errors and files that cannot be read end in
a message; other failures are returned. -/
def Options.run (o : Options) (files : Files) (environment : List (String × String)) :
    Except Failure Outcome × List Event :=
  let (result, log) := Reader.ofFile { settings := o.settings environment, files } o.source
  let report := logText log
  let outcome : Except Failure Outcome := match result with
    | .error (.diagnostic d) => .ok { code := 1, stderr := report ++ line ("error: " ++ d.message) }
    | .error (.file why path) =>
      .ok { code := 1, stderr := report ++
        line ("error: cannot read " ++ o.source ++ ": " ++ why.message path) }
    | .error f => .error f
    | .ok root =>
      if o.lookup.isEmpty then .ok (o.print report (render o.format true root))
      else match Lookup.scopedEntry Entry.inspection [⟨(root.inner?).getD [], false⟩] o.lookup with
        | some e => .ok (o.print report (render o.format false e))
        | none =>
          .ok { code := 2, stderr := report ++
            line ("error: " ++ Text.quote o.lookup ++ " not found in " ++ o.source) }
  (outcome, log)

end CaseDict.CommandLine
