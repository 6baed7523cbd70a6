import CaseDict.CommandLine
/-! # The program

The outer layer of the command line: it takes the arguments, files and environment of the process
and does what an `Outcome` says. Since a run only names the paths it asks for, it is repeated until
all of them are known. -/

namespace CaseDict.Main

open CommandLine

/-- What stands at a path. -/
def probe (path : String) : IO Finding := do
  try
    return .file (← IO.FS.readBinFile path)
  catch
    | .inappropriateType _ code _ => return if code = 21 then .directory else .fault .notDirectory
    | .invalidArgument _ code _ => return .fault (if code = 36 then .nameTooLong else .missing)
    | _ => return .fault .missing

/-- The environment of the process, as the process file system shows it. -/
def environment : IO (List (String × String)) := do
  match ← probe "/proc/self/environ" with
  | .file octets =>
    let settings := (Text.decodeFrom none octets.toList).splitOn (Char.ofNat 0)
    return settings.filterMap fun cs =>
      match cs.dropWhile (· != '=') with
      | '=' :: value => some (String.ofList (cs.takeWhile (· != '=')), String.ofList value)
      | _ => none
  | _ => return []

/-- Runs until all paths asked for are known. -/
partial def settle (o : Options) (current : String) (environment : List (String × String))
    (known : List (String × Finding)) : IO (Except Failure Outcome) := do
  let files : Files := ⟨current, fun path => (known.lookup path).getD (.fault .missing)⟩
  let (outcome, log) := o.run files environment
  let asked := ((Event.paths log).filter fun path => (known.lookup path).isNone).eraseDups
  if asked.isEmpty then return outcome
  let found ← asked.mapM fun path => return (path, ← probe path)
  settle o current environment (known ++ found)

/-- Does what an outcome says. -/
def perform (outcome : Outcome) : IO UInt32 := do
  IO.print outcome.stdout
  if let some (path, text) := outcome.written then IO.FS.writeFile path text
  IO.eprint outcome.stderr
  return outcome.code.toUInt32

end CaseDict.Main

open CaseDict

/-- Reads a dictionary file and prints it. -/
def main (arguments : List String) : IO UInt32 := do
  match CommandLine.Options.read arguments with
  | .error .help =>
    IO.print CommandLine.usage
    return 0
  | .error .invalid =>
    IO.eprint CommandLine.usage
    return 2
  | .ok o =>
    let current := (← IO.currentDir).toString
    match ← Main.settle o current (← Main.environment) [] with
    | .ok outcome => Main.perform outcome
    | .error f =>
      IO.eprintln ("error: " ++ f.message?.getD "the text cannot be read")
      return 1
