import CaseDict.Workspace
/-! # The dictionary being read

Statements are read into a scope: a dictionary that is being made (`fresh`), one that is stored in a
workspace (`stored`), or a block whose entries go into the scope below it when the block is complete
(`staged`). Names are looked up in the scope and the dictionaries around it (`Scope.frames`),
entries are placed in it (`Scope.place`), and removals go through blocks to the dictionary that the
blocks are for (`Scope.removeThrough`). -/

namespace CaseDict

inductive Scope where
  /-- A dictionary made apart from those around it, and the removals carried out in it. -/
  | fresh (entries : List Entry) (around : List (Frame Entry)) (removed : List Removal := [])
  /-- A stored dictionary, what was placed in it and the removals carried out in it. -/
  | stored (workspace : Workspace) (dictionary : Ref) (placed : List Ref)
      (removed : List Removal := [])
  /-- A block for the scope below. -/
  | staged (entries : List Entry) (below : Scope)

namespace Scope

/-- The entries of the innermost dictionary or block. -/
def entries : Scope → List Entry
  | fresh es _ _ | staged es _ => es
  | stored ws d _ _ => (ws.members d).map ws.tree

/-- The frames in which names are looked up. -/
def frames : Scope → List (Frame Entry)
  | fresh es around _ => ⟨es, false⟩ :: around
  | staged es below => ⟨es, true⟩ :: below.frames
  | stored ws d _ _ => (ws.frames d).map fun f => ⟨f.entries.map ws.tree, f.transparent⟩

/-- The scope of a dictionary that begins in this one. -/
def inner (s : Scope) : Scope := fresh [] s.frames

/-- Places an entry; returns what was placed and the events. -/
def place (mode : InputMode) (e : Entry) : Scope → Except Failure (List Entry × List Event) × Scope
  | fresh es around removed =>
    match e.place mode es with
    | .ok p => (.ok (p.placed, p.events), fresh p.entries around removed)
    | .error f => (.error f, fresh es around removed)
  | staged es below =>
    match e.place mode es with
    | .ok p => (.ok (p.placed, p.events), staged p.entries below)
    | .error f => (.error f, staged es below)
  | stored ws d before removed =>
    let (r, planted) := ws.plant none e
    match ((Workspace.place mode d r).run planted).run with
    | (.ok (placed, events), ws) =>
      (.ok (placed.map ws.tree, events), stored ws d (before ++ placed) removed)
    | (.error f, ws) => (.error f, stored ws d before removed)

/-- Removes entries of the innermost dictionary or block. -/
def remove (what : List Removal) : Scope → Scope
  | fresh es around removed =>
    fresh (Removal.applyAll what es) around (removed ++ what)
  | staged es below => staged (Removal.applyAll what es) below
  | stored ws d placed removed =>
    stored (ws.removeAll d what) d placed (removed ++ what)

/-- Removes entries of the blocks and of the dictionary they are for. -/
def removeThrough (what : List Removal) : Scope → Scope
  | staged es below =>
    staged (Removal.applyAll what es) (below.removeThrough what)
  | fresh es around removed => (fresh es around removed).remove what
  | stored ws d placed removed =>
    stored ((ws.through d).foldl (fun ws d => ws.removeAll d what) ws) d placed (removed ++ what)

end Scope

end CaseDict
