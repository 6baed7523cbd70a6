import CaseDict.Lookup
import CaseDict.Placement
import CaseDict.Removal
/-! # Workspaces

A workspace stores entries that are referred to from several places: a dictionary holds references
to its members, and a change of an entry shows wherever it is a member. A dictionary also refers to
the one around it, which is where lookups go on. `Workspace.tree` reads an entry back as a tree, and
`Workspace.plant` stores a tree.

Chains of references are followed for at most as many steps as there are nodes; a longer chain would
go round in a circle. -/

namespace CaseDict

/-- A reference to an entry of a workspace. -/
structure Ref where
  index : Nat
  deriving DecidableEq, Repr

/-- What a stored dictionary has beside its heading. -/
structure Membership where
  members : List Ref := []
  /-- The dictionary around it. -/
  parent : Option Ref := none
  /-- It stands for the dictionary around it, into which its entries will go. -/
  transparent : Bool := false

/-- A stored entry. -/
inductive Node where
  | primitive (head : Heading) (tokens : List Token)
  | dictionary (head : Heading) (inside : Membership)

namespace Node

def head : Node → Heading
  | primitive h _ | dictionary h _ => h

def withHead (h : Heading) : Node → Node
  | primitive _ ts => primitive h ts
  | dictionary _ m => dictionary h m

/-- The membership of a dictionary. -/
def inside? : Node → Option Membership
  | dictionary _ m => some m
  | primitive .. => none

def isDictionary (n : Node) : Bool := n.inside?.isSome

/-- Changes the membership of a dictionary. -/
def mapInside (f : Membership → Membership) : Node → Node
  | dictionary h m => dictionary h (f m)
  | n => n

end Node

structure Workspace where
  nodes : Array Node := #[]

namespace Workspace

/-! ### Reading -/

/-- The entry at a reference. -/
def node (ws : Workspace) (r : Ref) : Node :=
  ws.nodes.getD r.index (.primitive ⟨"", false, -1, -1⟩ [])

def head (ws : Workspace) (r : Ref) : Heading := (ws.node r).head

def isDictionary (ws : Workspace) (r : Ref) : Bool := (ws.node r).isDictionary

/-- The members of a dictionary. -/
def members (ws : Workspace) (r : Ref) : List Ref := ((ws.node r).inside?.map (·.members)).getD []

def parent (ws : Workspace) (r : Ref) : Option Ref := (ws.node r).inside?.bind (·.parent)

def isTransparent (ws : Workspace) (r : Ref) : Bool :=
  ((ws.node r).inside?.map (·.transparent)).getD false

/-- Entries of a workspace are inspected through their references. -/
def inspection (ws : Workspace) : Inspection Ref :=
  ⟨ws.head, fun r => (ws.node r).inside?.map (·.members)⟩

/-- The entry as a tree of at most that depth. -/
def treeWithin (ws : Workspace) : Nat → Ref → Entry
  | 0, r => .primitive (ws.head r) []
  | depth + 1, r =>
    match ws.node r with
    | .primitive h ts => .primitive h ts
    | .dictionary h m => .dictionary h (m.members.map (ws.treeWithin depth))

/-- The entry as a tree. -/
def tree (ws : Workspace) (r : Ref) : Entry := ws.treeWithin (ws.nodes.size + 1) r

/-- A dictionary and those around it, for at most that many steps. -/
def chainWithin (ws : Workspace) : Nat → Ref → List Ref
  | 0, r => [r]
  | steps + 1, r =>
    match ws.parent r with
    | none => [r]
    | some p => r :: ws.chainWithin steps p

/-- A dictionary and those around it, the innermost first. -/
def chain (ws : Workspace) (r : Ref) : List Ref := ws.chainWithin ws.nodes.size r

/-- The frames in which names are looked up from a dictionary. -/
def frames (ws : Workspace) (r : Ref) : List (Frame Ref) :=
  (ws.chain r).map fun d => ⟨ws.members d, ws.isTransparent d⟩

/-- The outermost dictionary. -/
def root (ws : Workspace) (r : Ref) : Ref := (ws.chain r).getLast?.getD r

/-- The dictionary around the one that `r` stands for. -/
def scopeParent (ws : Workspace) (r : Ref) : Option Ref :=
  ((((ws.chain r).dropWhile ws.isTransparent).drop 1).dropWhile ws.isTransparent).head?

/-- The path of a dictionary from the outermost one, whose own keyword is not part of it. -/
def path (ws : Workspace) (r : Ref) : String :=
  let named := (ws.chain r).dropLast.filter (!ws.isTransparent ·)
  "/".intercalate (named.map fun d => (ws.head d).keyword).reverse

/-- The newest entry that a name denotes, here or, if `outward`, in the dictionaries around;
patterns count if `patterns`. -/
def find (ws : Workspace) (r : Ref) (name : String) (outward : Bool := true)
    (patterns : Bool := true) : Option Ref :=
  let frames := if outward then ws.frames r else (ws.frames r).take 1
  if patterns then Lookup.findOutward ws.inspection name frames
  else frames.findSome? fun f => Lookup.findNamed ws.inspection name f.entries

/-- The entry that a scoped name denotes. -/
def scopedEntry (ws : Workspace) (r : Ref) (name : String) : Option Ref :=
  Lookup.scopedEntry ws.inspection (ws.frames r) name

/-- The entry that a name denotes, which must exist. -/
def require (ws : Workspace) (r : Ref) (name : String) (outward : Bool := true) :
    Except Failure Ref :=
  match ws.find r name outward with
  | some e => .ok e
  | none =>
    let path := ws.path r
    .error (.unplaced (.notFound name (if path.isEmpty then (ws.head r).keyword else path)))

/-- The entry as a dictionary. -/
def asDictionary (ws : Workspace) (r : Ref) : Except Failure Ref :=
  let h := ws.head r
  if ws.isDictionary r then .ok r else .error (.unplaced (.notDictionary h.keyword) h.startLine)

/-- The tokens of a primitive entry. -/
def asPrimitive (ws : Workspace) (r : Ref) : Except Failure (List Token) :=
  match ws.node r with
  | .primitive _ ts => .ok ts
  | .dictionary h _ => .error (.unplaced (.notPrimitive h.keyword) h.startLine)

/-! ### Storing -/

def store (ws : Workspace) (r : Ref) (n : Node) : Workspace := ⟨ws.nodes.setIfInBounds r.index n⟩

def update (ws : Workspace) (r : Ref) (f : Node → Node) : Workspace := ws.store r (f (ws.node r))

/-- Stores a new entry. -/
def alloc (ws : Workspace) (n : Node) : Ref × Workspace := (⟨ws.nodes.size⟩, ⟨ws.nodes.push n⟩)

/-- Adds a member at the end of a dictionary. -/
def append (ws : Workspace) (d e : Ref) : Workspace :=
  ws.update d (·.mapInside fun m => { m with members := m.members ++ [e] })

mutual

/-- Stores a tree, whose dictionary has the given parent. -/
def plant (ws : Workspace) (parent : Option Ref) : Entry → Ref × Workspace
  | .primitive h ts => ws.alloc (.primitive h ts)
  | .dictionary h es =>
    let (r, ws) := ws.alloc (.dictionary h { parent })
    (r, ws.plantAll r es)

/-- Stores trees as members of a dictionary. -/
def plantAll (ws : Workspace) (d : Ref) : List Entry → Workspace
  | [] => ws
  | e :: es =>
    let (r, ws) := ws.plant (some d) e
    (ws.append d r).plantAll d es

end

/-- Makes an entry the last member of a dictionary, which becomes its parent. -/
def insert (ws : Workspace) (d e : Ref) : Workspace :=
  (ws.update e (·.mapInside fun m => { m with parent := some d })).append d e

/-- Keeps the members of a dictionary whose keyword passes the test. -/
def filterMembers (ws : Workspace) (d : Ref) (keep : String → Bool) : Workspace :=
  ws.update d (·.mapInside fun m =>
    { m with members := m.members.filter fun e => keep (ws.head e).keyword })

/-- Removes members of a dictionary. -/
def remove (ws : Workspace) (d : Ref) (what : Removal) : Workspace :=
  ws.filterMembers d (!what.takes ·)

/-- Carries out several removals in a dictionary. -/
def removeAll (ws : Workspace) (d : Ref) (what : List Removal) : Workspace :=
  what.foldl (fun ws r => ws.remove d r) ws

/-- A dictionary and, as long as they are transparent, those around it that it stands for. -/
def through (ws : Workspace) (d : Ref) : List Ref :=
  let chain := ws.chain d
  chain.take ((chain.takeWhile ws.isTransparent).length + 1)

/-- Gives an entry another keyword. A malformed pattern is a failure, but the keyword is changed. -/
def rename (ws : Workspace) (r : Ref) (keyword : String) : Except Failure Unit × Workspace :=
  let h := { ws.head r with keyword }
  (h.checked.map fun _ => (), ws.update r (·.withHead h))

/-- Stores a copy of an entry, under another keyword if one is given. A copy of a dictionary has the
parent of the one that is copied. -/
def clone (ws : Workspace) (r : Ref) (keyword : Option String := none) :
    Except Failure (Ref × Workspace) := do
  let t := ws.tree r
  let copy ← (t.withHead { t.head with keyword := keyword.getD t.keyword }).copy
  return ws.plant (ws.parent r) copy

/-! ### Merging and placing -/

/-- Operations on a workspace. What was changed before a failure stays changed. -/
abbrev Change := ExceptT Failure (StateM Workspace)

/-- The lines of a dictionary after another was merged into it. -/
def mergeLines (ws : Workspace) (d other : Ref) : Workspace :=
  ws.update d fun n => n.withHead (Entry.mergedHead n.head (ws.head other))

/-- Merges the dictionary `other` into `d`, dictionaries in them to at most that depth. -/
def mergeWithin : Nat → Ref → Ref → Change Unit
  | 0, _, _ => return
  | depth + 1, d, other => do
    ((← get).members other).forM fun e => do
      let ws ← get
      match Lookup.findNamed ws.inspection (ws.head e).keyword (ws.members d) with
      | some old =>
        if ws.isDictionary old && ws.isDictionary e then mergeWithin depth old e else replace d e
      | none => replace d e
    modify fun ws => ws.mergeLines d other
where
  /-- A copy of `e` takes the place of all entries with its keyword. -/
  replace (d e : Ref) : Change Unit := do
    let ws ← get
    let ws := ws.filterMembers d (· != (ws.head e).keyword)
    set ws
    let (copy, ws) ← (ws.clone e : Except Failure (Ref × Workspace))
    set (ws.insert d copy)

/-- Merges a dictionary into another. -/
def merge (d other : Ref) : Change Unit := do mergeWithin ((← get).nodes.size + 1) d other

/-- The newest member of that keyword, pattern or not. -/
def newest? (ws : Workspace) (d : Ref) (keyword : String) : Option Ref :=
  (ws.members d).reverse.find? fun e => (ws.head e).keyword == keyword

/-- Places an entry in a dictionary; returns what was placed and the events. -/
def place (mode : InputMode) (d e : Ref) : Change (List Ref × List Event) := do
  let ws ← get
  let h := ws.head e
  match ws.newest? d h.keyword with
  | none => set (ws.insert d e); return ([e], [])
  | some old =>
    let first := (ws.head old).startLine
    match mode.placement (ws.isDictionary old && ws.isDictionary e) with
    | .append => set (ws.insert d e); return ([e], [])
    | .merge => merge old e; return ([old], [])
    | .replace => set ((ws.filterMembers d (· != h.keyword)).insert d e); return ([e], [])
    | .ignore warns => return ([], h.ignored warns first)
    | .refuse => throw (h.duplicate first)

end Workspace

end CaseDict
