import CaseDict.Number
import CaseDict.Settings
import CaseDict.Text.Blank
/-! # Options of the command line

Arguments are operands, options, or the two dashes after which all arguments are operands
(`Argument.read`). An option has a value or is a flag. A value is attached to the option (`-fjson`,
`--format=json`) or is the next operand; flags of one letter may stand in a cluster (`-vf json`),
and long names may be shortened as long as they are unambiguous. There is exactly one operand: the
file to read. -/

namespace CaseDict.CommandLine

/-- How the result is printed. -/
inductive Format where
  | foam
  | json
  | info
  deriving DecidableEq, Repr

def Format.ofName? : String → Option Format
  | "foam" => some .foam
  | "json" => some .json
  | "info" => some .info
  | _ => none

/-- What the arguments ask for. -/
structure Options where
  /-- The file to read. -/
  source : String
  format : Format := .foam
  /-- The scoped name of the entry to print; all if it is empty. -/
  lookup : String := ""
  includePaths : List String := []
  mode : InputMode := .retain
  useEnvironment : Bool := true
  maxExpansion : Int := 64
  /-- The file to write; a dash is the standard output. -/
  output : String := "-"
  verbose : Bool := false

/-- The options there are. -/
inductive Key where
  | help
  | format
  | lookup
  | includePath
  | inputMode
  | noEnvironment
  | maxExpansion
  | output
  | verbose
  deriving DecidableEq, Repr

/-- All names of options. -/
def names : List (String × Key) :=
  [("-h", .help), ("--help", .help), ("-f", .format), ("--format", .format), ("-l", .lookup),
    ("--lookup", .lookup), ("-I", .includePath), ("--include-path", .includePath),
    ("--input-mode", .inputMode), ("--no-env", .noEnvironment),
    ("--max-expansion-depth", .maxExpansion), ("-o", .output), ("--output", .output),
    ("-v", .verbose), ("--verbose", .verbose)]

def Key.hasValue : Key → Bool
  | help | noEnvironment | verbose => false
  | _ => true

/-- How the program is called. -/
def usage : String :=
  "usage: casedict [-h] [-f foam|json|info] [-l NAME] [-I DIR]... [--input-mode MODE]
    [--no-env] [--max-expansion-depth N] [-o FILE] [-v] FILE

Reads a dictionary file and prints it fully expanded.

  -f, --format             foam (default), json or info
  -l, --lookup NAME        print only the entry at the scoped name
  -I, --include-path DIR   search DIR for includes after the file's own directory
  --input-mode MODE        what becomes of redefined keywords: retain (default), merge,
                           overwrite, protect, warn or error
  --no-env                 do not take references from the environment
  --max-expansion-depth N  how deep expansions may nest (default 64)
  -o, --output FILE        write to FILE
"

/-- The option of one letter. -/
def letter? (c : Char) : Option Key := names.lookup (String.ofList ['-', c])

/-! ### Arguments -/

/-- An option as it is written. -/
inductive Written where
  | alone (key : Key)
  /-- With a text after an equals sign. -/
  | equals (key : Key) (long : Bool) (text : List Char)
  /-- A letter with a text right after it. -/
  | joined (key : Key) (text : List Char)
  | unknown

inductive Argument where
  | operand (text : String)
  | dashes
  | option (written : Written)

/-- A negative numeral, which is an operand. -/
def isNegativeNumber (cs : List Char) : Bool :=
  let body := if cs.getLast? = some '\n' then cs.dropLast else cs
  match body with
  | '-' :: cs =>
    match cs.dropWhile Text.isDigit with
    | [] => !cs.isEmpty
    | '.' :: fraction => !fraction.isEmpty && fraction.all Text.isDigit
    | _ => false
  | _ => false

/-- The options whose long name begins so. -/
def abbreviated (start : String) : List Key :=
  (names.filter fun (name, _) => start.isPrefixOf name).map (·.2)

/-- Reads an argument that stands before the two dashes; none if it is ambiguous. -/
def Argument.read (s : String) : Option Argument :=
  let cs := s.toList
  let start := String.ofList (cs.takeWhile (· != '='))
  let attached := cs.dropWhile (· != '=')
  let unmatched :=
    if isNegativeNumber cs || cs.contains ' ' then Argument.operand s else .option .unknown
  match cs with
  | '-' :: c :: rest =>
    match names.lookup s, names.lookup start, attached with
    | some key, _, _ => some (.option (.alone key))
    | none, some key, '=' :: text => some (.option (.equals key (c == '-') text))
    | _, _, _ =>
      if c = '-' then
        match abbreviated start, attached with
        | [key], '=' :: text => some (.option (.equals key true text))
        | [key], _ => some (.option (.alone key))
        | [], _ => some unmatched
        | _, _ => none
      else match letter? c with
        | some key => some (.option (.joined key rest))
        | none => some unmatched
  | _ => some (.operand s)

/-- Reads all arguments. -/
def Argument.readAll : List String → Option (List Argument)
  | [] => some []
  | s :: more =>
    if s = "--" then some (.dashes :: more.map .operand)
    else do return (← Argument.read s) :: (← readAll more)

/-! ### Values -/

/-- The digits of a numeral whose digits may be separated by single underscores. -/
def digits? : List Char → Option (List Char)
  | [c] => if Text.isDigit c then some [c] else none
  | c :: '_' :: cs => if Text.isDigit c then (digits? cs).map (c :: ·) else none
  | c :: cs => if Text.isDigit c then (digits? cs).map (c :: ·) else none
  | [] => none

/-- Reads an integer with white space around it. -/
def integer? (s : String) : Option Int := do
  let (negative, body) := Number.splitSign (Text.trim s.toList)
  let digits ← digits? body
  if Number.digitLimit < digits.length then none
  let n : Int := Number.digitsValue 0 digits
  return if negative then -n else n

/-- Sets the value of an option; none if it has no such value. -/
def Options.set (o : Options) (key : Key) (value : String) : Option Options :=
  match key with
  | .format => (Format.ofName? value).map fun format => { o with format }
  | .lookup => some { o with lookup := value }
  | .includePath => some { o with includePaths := o.includePaths ++ [value] }
  | .inputMode =>
    (InputMode.all.find? fun m => m.name == value).map fun mode => { o with mode }
  | .maxExpansion => (integer? value).map fun maxExpansion => { o with maxExpansion }
  | .output => some { o with output := value }
  | .help | .noEnvironment | .verbose => none

/-! ### Clusters -/

/-- What one argument asks for: flags, then perhaps an option with a value, which is attached or
follows. -/
structure Cluster where
  flags : List Key := []
  valued : Option (Key × Option String) := none
  /-- An unknown letter ended the cluster. -/
  surplus : Bool := false

def Cluster.cons (key : Key) (c : Cluster) : Cluster := { c with flags := key :: c.flags }

/-- The option alone. -/
def Cluster.single (key : Key) : Cluster :=
  if key.hasValue then { valued := some (key, none) } else { flags := [key] }

/-- An option with a text attached, `equals` telling whether an equals sign stands between them. The
text after a flag of one letter is a cluster of further letters. -/
def cluster (key : Key) (equals : Bool) (text : List Char) : Option Cluster :=
  if key.hasValue then some { valued := some (key, some (String.ofList text)) }
  else match text with
    | [] => none
    | c :: cs =>
      if equals || c = '-' then none
      else match letter? c with
        | none => some { flags := [key], surplus := true }
        | some next =>
          match cs with
          | [] => some (.cons key (.single next))
          | '=' :: cs => (cluster next true cs).map (.cons key)
          | c :: cs => (cluster next false (c :: cs)).map (.cons key)
termination_by text.length

def Written.cluster? : Written → Option Cluster
  | alone key => some (.single key)
  | equals key true text =>
    if key.hasValue then some { valued := some (key, some (String.ofList text)) } else none
  | equals key false text => cluster key true text
  | joined key text => cluster key false text
  | unknown => some { surplus := true }

/-! ### All arguments -/

/-- Why the arguments give no options. -/
inductive Refusal where
  | help
  | invalid
  deriving DecidableEq, Repr

/-- Options while arguments are read; `source` is not set at first, and `surplus` says that there
was an argument too many. -/
structure Draft where
  options : Options
  given : Bool := false
  surplus : Bool := false

def Draft.flag (d : Draft) : Key → Except Refusal Draft
  | .help => .error .help
  | .noEnvironment => .ok { d with options := { d.options with useEnvironment := false } }
  | .verbose => .ok { d with options := { d.options with verbose := true } }
  | _ => .ok d

def Draft.flags (d : Draft) : List Key → Except Refusal Draft
  | [] => .ok d
  | key :: keys => do (← d.flag key).flags keys

def Draft.set (d : Draft) (key : Key) (value : String) : Except Refusal Draft :=
  match d.options.set key value with
  | some options => .ok { d with options }
  | none => .error .invalid

/-- Takes an operand as the file to read, or as surplus. -/
def Draft.take (d : Draft) (source : String) : Draft :=
  if d.given then { d with surplus := true }
  else { d with options := { d.options with source }, given := true }

/-- Reads arguments from left to right. The two dashes belong to the file beside them. -/
def Draft.consume (d : Draft) : List Argument → Except Refusal Draft
  | [] => .ok d
  | .operand s :: .dashes :: more =>
    if d.given then { d with surplus := true }.consume more else (d.take s).consume more
  | .operand s :: more => (d.take s).consume more
  | .dashes :: .operand s :: more =>
    if d.given then { d with surplus := true }.consume more else (d.take s).consume more
  | .dashes :: more => { d with surplus := true }.consume more
  | .option written :: .operand value :: more =>
    match written.cluster? with
    | none => .error .invalid
    | some c =>
      let d := { d with surplus := d.surplus || c.surplus }
      match c.valued with
      | none => do (← d.flags c.flags).consume (.operand value :: more)
      | some (key, none) => do (← (← d.flags c.flags).set key value).consume more
      | some (key, some own) => do
        (← (← d.flags c.flags).set key own).consume (.operand value :: more)
  | .option written :: more =>
    match written.cluster? with
    | none => .error .invalid
    | some c =>
      let d := { d with surplus := d.surplus || c.surplus }
      match c.valued with
      | none => do (← d.flags c.flags).consume more
      | some (_, none) => .error .invalid
      | some (key, some own) => do (← (← d.flags c.flags).set key own).consume more
termination_by arguments => arguments.length

/-- The options that the arguments give. -/
def Options.read (arguments : List String) : Except Refusal Options :=
  match Argument.readAll arguments with
  | none => .error .invalid
  | some arguments => do
    let d ← ({ options := { source := "" } } : Draft).consume arguments
    if d.given && !d.surplus then return d.options else throw .invalid

end CaseDict.CommandLine
