import CaseDict.Calc.Error
import CaseDict.Pattern.Syntax
import CaseDict.Settings
import CaseDict.Token
/-! # Failures

A reading error is a `Cause`, the line it belongs to and the name of the text it was found in
(`Diagnostic`). Every cause has one wording (`Cause.message`) and one class (`Cause.errorClass`).
Beside the diagnostics a read may fail for a few reasons that carry no place (`Failure`). -/

namespace CaseDict

/-- What is wrong with a directive's use or arguments. -/
inductive Misuse where
  | notInValue
  | notAsKeyword
  | expressionExpected (found : String)
  | calculation (why : Calc.CalcError)
  | numberExpected (found : String)
  | fileNameExpected (found : String)
  | secondElse (line : Int)
  | notSwitch (found : String)
  | loneElse
  | loneEndif
  | keywordsExpected
  | modeExpected (found : String)
  | unknownMode (name : String)
  deriving DecidableEq

def Misuse.message : Misuse → String
  | notInValue => "cannot be used inside an entry value"
  | notAsKeyword => "cannot be used in place of a keyword"
  | expressionExpected found => "expected a quoted expression, found " ++ Text.quote found
  | calculation why => why.message
  | numberExpected found => "expected a single number, found " ++ Text.quote found
  | fileNameExpected found => "expected a file name, found " ++ Text.quote found
  | secondElse line => "second #else at line " ++ toString line
  | notSwitch found => Text.quote found ++ " is not a switch value"
  | loneElse => "#else without a matching #if or #ifeq"
  | loneEndif => "#endif without a matching #if or #ifeq"
  | keywordsExpected => "expected a keyword or a list of keywords"
  | modeExpected found => "expected a mode name, found " ++ Text.quote found
  | unknownMode name => InputMode.unknownMessage (Text.quote name)

/-- The causes of reading errors. -/
inductive Cause where
  | unterminatedComment
  | unterminatedText
  | unterminatedReference
  | brokenReference
  | emptyReference
  | namelessReference
  | namelessDirective
  | endOfInput (expected : String)
  | keywordExpected (found : String)
  | malformedPattern (keyword : String)
  | terminatorInEnvironment (name : String)
  | unclosedDictionary (keyword : String)
  | strayBrace
  | unclosed (bracket : Bracket)
  | unopened (bracket : Bracket)
  | mismatched (opener : Bracket) (openedAt : Int) (closer : Bracket)
  | undefinedVariable (name : String)
  | unknownDirective (name : String)
  | expansionTooDeep (token : String) (limit : Int)
  | nestedTooDeep (limit : Int)
  | notDictionary (keyword : String)
  | notPrimitive (keyword : String)
  | dictionaryAsValue (name : String)
  | dictionaryInText (name : String)
  | dictionaryAmongTokens (name : String)
  | splicedPrimitive (name : String)
  | notFound (keyword : String) (dictionary : String)
  | argumentExpected (found : String)
  | misuse (directive : String) (how : Misuse)
  | includeMissing (name : String) (searched : List String)
  | conditionalUnclosed (directive : String)
  | duplicate (keyword : String) (firstLine : Int)
  deriving DecidableEq

/-- The classes of reading errors. -/
inductive ErrorClass where
  | endOfStream
  | parse
  | mismatchedScope
  | undefinedVariable
  | unknownDirective
  | expansionOverflow
  | nestingExceeded
  | wrongKind
  | notFound
  | directive
  | inclusion
  | duplicate
  deriving DecidableEq, Repr

namespace Cause

def errorClass : Cause → ErrorClass
  | unterminatedComment | unterminatedText | unterminatedReference | endOfInput _
  | conditionalUnclosed _ => .endOfStream
  | brokenReference | emptyReference | namelessReference | namelessDirective | keywordExpected _
  | malformedPattern _ | terminatorInEnvironment _ => .parse
  | unclosedDictionary _ | strayBrace | unclosed _ | unopened _ | mismatched .. => .mismatchedScope
  | undefinedVariable _ => .undefinedVariable
  | unknownDirective _ => .unknownDirective
  | expansionTooDeep .. => .expansionOverflow
  | nestedTooDeep _ => .nestingExceeded
  | notDictionary _ | notPrimitive _ | dictionaryAsValue _ | dictionaryInText _
  | dictionaryAmongTokens _ | splicedPrimitive _ => .wrongKind
  | notFound .. => .notFound
  | argumentExpected _ | misuse .. => .directive
  | includeMissing .. => .inclusion
  | duplicate .. => .duplicate

/-- A bracket or another mark between single quotes. -/
def mark (s : String) : String := "'" ++ s ++ "'"

def message : Cause → String
  | unterminatedComment => "unterminated block comment"
  | unterminatedText => "unterminated string"
  | unterminatedReference | brokenReference => "unterminated $\x7b...\x7d variable"
  | emptyReference => "empty variable name"
  | namelessReference => "empty variable name after '$'"
  | namelessDirective => "empty directive name after '#'"
  | endOfInput expected => "unexpected end of input while reading " ++ expected
  | keywordExpected found => "expected a keyword, found " ++ Text.quote found
  | malformedPattern keyword => "invalid keyword pattern " ++ Text.quote keyword
  | terminatorInEnvironment name =>
    "environment variable $" ++ name ++ " contains ';' and cannot be used as a value"
  | unclosedDictionary keyword =>
    "dictionary " ++ Text.quote keyword ++ " is missing its closing " ++ mark Bracket.brace.closing
  | strayBrace => mark Bracket.brace.closing ++ " without an open dictionary"
  | unclosed b => mark b.opening ++ " is never closed"
  | unopened b => mark b.closing ++ " without a matching opener"
  | mismatched opener line closer =>
    "expected " ++ mark opener.closing ++ " to close " ++ mark opener.opening ++ " from line " ++
      toString line ++ ", found " ++ mark closer.closing
  | undefinedVariable name => "undefined variable $" ++ name
  | unknownDirective name => "unknown directive #" ++ name
  | expansionTooDeep token limit =>
    "expansion of " ++ token ++ " nested deeper than " ++ toString limit ++
      " levels (self-referencing definition?)"
  | nestedTooDeep limit => "dictionaries nested deeper than " ++ toString limit
  | notDictionary keyword => "entry " ++ Text.quote keyword ++ " is not a dictionary"
  | notPrimitive keyword =>
    "entry " ++ Text.quote keyword ++ " is a dictionary, not a primitive entry"
  | dictionaryAsValue name => "$" ++ name ++ " names a dictionary and cannot be used as a value"
  | dictionaryInText name => "$" ++ name ++ " names a dictionary and cannot be used in a string"
  | dictionaryAmongTokens name =>
    "$" ++ name ++ " is a dictionary and cannot be combined with other tokens"
  | splicedPrimitive name => "$" ++ name ++ " in keyword position must name a dictionary"
  | notFound keyword dictionary =>
    "keyword " ++ Text.quote keyword ++ " not found" ++
      if dictionary.isEmpty then "" else " in dictionary " ++ Text.quote dictionary
  | argumentExpected found => "expected an argument, found " ++ Text.quote found
  | misuse directive how => "#" ++ directive ++ ": " ++ how.message
  | includeMissing name searched =>
    "cannot find include file " ++ Text.quote name ++ " (searched: " ++
      ", ".intercalate searched ++ ")"
  | conditionalUnclosed directive => "#" ++ directive ++ " without a matching #endif"
  | duplicate keyword firstLine =>
    "keyword " ++ Text.quote keyword ++ " redefined; first defined at line " ++ toString firstLine

end Cause

/-- A reading error and its place. A negative line means none; the text is unnamed as long as no
statement of a text has been left. -/
structure Diagnostic where
  cause : Cause
  line : Int := -1
  source : Option String := none
  deriving DecidableEq

namespace Diagnostic

/-- The place: text and line, the line alone, the text alone, or nothing. -/
def location (d : Diagnostic) : String :=
  let source := d.source.getD ""
  if d.line < 0 then source
  else if source.isEmpty then "line " ++ toString d.line
  else source ++ ":" ++ toString d.line

def message (d : Diagnostic) : String :=
  if d.location.isEmpty then d.cause.message else d.location ++ ": " ++ d.cause.message

/-- The error seen from a statement of the text `name`, which fills in a text still unnamed. -/
def within (name : String) (d : Diagnostic) : Diagnostic :=
  { d with source := some (d.source.getD name) }

end Diagnostic

/-- Why a file cannot be read. -/
inductive FileFault where
  | missing
  | isDirectory
  | notDirectory
  | nameTooLong
  deriving DecidableEq, Repr

/-- The system's number and words for a fault, with the path it is about. -/
def FileFault.message (why : FileFault) (path : String) : String :=
  let (number, words) := match why with
    | missing => (2, "No such file or directory")
    | notDirectory => (20, "Not a directory")
    | isDirectory => (21, "Is a directory")
    | nameTooLong => (36, "File name too long")
  "[Errno " ++ toString number ++ "] " ++ words ++ ": " ++ Text.quote path

/-- Every way in which an operation on dictionary texts fails. -/
inductive Failure where
  /-- A reading error with its place. -/
  | diagnostic (d : Diagnostic)
  /-- An integer of more digits than are read or written. -/
  | numeralTooLong
  /-- A regular expression is malformed in a way that no reading error describes. -/
  | pattern (why : Pattern.Fault)
  /-- The file system refuses a file. -/
  | file (why : FileFault) (path : String)
  /-- A second token put back into a stream that holds one. -/
  | putBackTwice (stream : String)
  deriving DecidableEq

namespace Failure

/-- The wording, for the failures that have one. -/
def message? : Failure → Option String
  | diagnostic d => some d.message
  | putBackTwice stream => some (stream ++ ": stream already holds a put-back token")
  | pattern why => why.message?
  | numeralTooLong | file .. => none

/-- A reading error without a text's name. -/
def unplaced (cause : Cause) (line : Int := -1) : Failure := .diagnostic ⟨cause, line, none⟩

/-- A reading error in the text `source`. -/
def inText (cause : Cause) (line : Int) (source : String) : Failure :=
  .diagnostic ⟨cause, line, some source⟩

/-- The failure seen from a statement of the text `name`. -/
def within (name : String) : Failure → Failure
  | diagnostic d => .diagnostic (d.within name)
  | f => f

end Failure

end CaseDict
