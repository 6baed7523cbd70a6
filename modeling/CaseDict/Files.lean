import CaseDict.Error
import CaseDict.Text.Utf8
/-! # Files

A `Path` is a path in normal form: without empty and `.` components. A read looks files up in a
value of `Files`, which says what stands at each path; `FileTree` is one that holds its files in
memory. -/

namespace CaseDict

/-- A path: the slashes it begins with, if it is absolute, and its components. -/
structure Path where
  root : String := ""
  parts : List String := []
  deriving DecidableEq, Repr

namespace Path

/-- Reads a path. Exactly two leading slashes are kept; one or more than two count as one. -/
def ofString (s : String) : Path :=
  let cs := s.toList
  let slashes := (cs.takeWhile (· == '/')).length
  let root := if slashes = 0 then "" else if slashes = 2 then "//" else "/"
  let parts := (cs.splitOn '/').filterMap fun part =>
    if part.isEmpty || part == ['.'] then none else some (String.ofList part)
  ⟨root, parts⟩

def text (p : Path) : String :=
  if p.root.isEmpty && p.parts.isEmpty then "." else p.root ++ "/".intercalate p.parts

def isAbsolute (p : Path) : Bool := !p.root.isEmpty

/-- The path without its last component. -/
def parent (p : Path) : Path := { p with parts := p.parts.dropLast }

/-- A path seen from a directory; an absolute one is not changed. -/
def join (directory p : Path) : Path :=
  if p.isAbsolute then p else { directory with parts := directory.parts ++ p.parts }

end Path

/-- What stands at a path. -/
inductive Finding where
  | file (octets : ByteArray)
  | directory
  | fault (why : FileFault)

/-- The files that a read can see: the current directory and what stands at each path. -/
structure Files where
  current : String
  find : String → Finding

namespace Files

/-- Whether a file stands at the path. Names that are too long are an error. -/
def isFile (fs : Files) (p : Path) : Except Failure Bool :=
  match fs.find p.text with
  | .file _ => .ok true
  | .fault .nameTooLong => .error (.file .nameTooLong p.text)
  | _ => .ok false

/-- The text of the file at the path. -/
def readText (fs : Files) (p : Path) : Except Failure String :=
  match fs.find p.text with
  | .file octets => .ok (Text.ofOctets octets)
  | .directory => .error (.file .isDirectory p.text)
  | .fault why => .error (.file why p.text)

end Files

/-- Files held in memory, by their components below the current directory. Directories are those
that the files need. -/
structure FileTree where
  current : String
  files : List (Path × ByteArray)

namespace FileTree

/-- Names of files have at most this many octets. -/
def nameLimit : Nat := 255

/-- Paths have at most this many octets. -/
def pathLimit : Nat := 4095

/-- Goes along components from the directory `place` below the current one. -/
def walk (t : FileTree) (place : List String) : List String → Finding
  | [] => .directory
  | name :: rest =>
    if name = ".." then
      if place.isEmpty then
        -- Above the current directory nothing is known but the directories themselves.
        if rest.all (· == "..") then .directory else .fault .missing
      else walk t place.dropLast rest
    else if nameLimit < name.utf8ByteSize then .fault .nameTooLong
    else
      let inner := place ++ [name]
      match t.files.find? (·.1.parts == inner) with
      | some (_, octets) => if rest.isEmpty then .file octets else .fault .notDirectory
      | none =>
        if t.files.any fun (p, _) => inner.isPrefixOf p.parts then walk t inner rest
        else .fault .missing

/-- The components of a path below the current directory. Paths into the current directory may begin
with its own path; other absolute paths lead outside. -/
def below? (t : FileTree) (p : Path) : Option (List String) :=
  let current := Path.ofString t.current
  if p.root == current.root && current.parts.isPrefixOf p.parts then
    some (p.parts.drop current.parts.length)
  else if p.isAbsolute then none
  else some p.parts

/-- What stands at a path. -/
def find (t : FileTree) (s : String) : Finding :=
  let p := Path.ofString s
  if pathLimit < s.utf8ByteSize then .fault .nameTooLong
  else match t.below? p with
    | some parts => walk t [] parts
    | none => if p.parts.isEmpty then .directory else .fault .missing

def toFiles (t : FileTree) : Files := ⟨t.current, t.find⟩

/-- Components without steps outwards. -/
def settle (parts : List String) : List String :=
  parts.foldl (fun place name => if name = ".." then place.dropLast else place ++ [name]) []

/-- The tree after a file was written, if its directory exists. -/
def write (t : FileTree) (s : String) (octets : ByteArray) : Except FileFault FileTree :=
  let p := Path.ofString s
  let place : Path := ⟨"", settle ((t.below? p).getD p.parts)⟩
  match t.find p.text with
  | .directory => .error .isDirectory
  | .fault .missing =>
    match t.find p.parent.text with
    | .directory => .ok { t with files := t.files ++ [(place, octets)] }
    | .file _ => .error .notDirectory
    | .fault why => .error why
  | .fault why => .error why
  | .file _ =>
    .ok { t with files := t.files.map fun (q, old) => (q, if q = place then octets else old) }

end FileTree

end CaseDict
