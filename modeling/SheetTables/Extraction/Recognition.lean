import SheetTables.Extraction.Header
import SheetTables.Extraction.Run

/-! # Recognition

Headers are found by their matchers and bound to the sheet together with all that hangs off
them. The anchor is looked for in the whole area; each cell that it matches opens a table. A
header of another root belongs to the anchor closest to it, and among several the one closest
to its anchor is taken. The children of a group are looked for among the cells that its
direction and distance lead to.
-/

namespace SheetTables

/-- The first of the members with the least weight. -/
def leastBy {α : Type} (weight : α → Nat) : List α → Option α
  | [] => none
  | a :: as =>
    match leastBy weight as with
    | some b => if weight b < weight a then some b else some a
    | none => some a

def Cell.distance (a b : Cell) : Nat := a.range.cornerDistance b.range

/-- The place of the anchor closest to a cell, the earlier of two that are equally close. -/
def nearestAnchor? (anchors : List Cell) (c : Cell) : Option Nat :=
  (leastBy (fun a : Cell × Nat => a.1.distance c) anchors.zipIdx).map (·.2)

namespace Search

/-- The values of a run that its matcher does not accept, by their place. -/
def mismatches [Calendar] (data : DataSpec) (cells : List Cell) : List (Nat × Problem) :=
  match data.matcher with
  | none => []
  | some m => cells.zipIdx.filterMap fun (c, index) =>
    (m.mismatch? c.value).map fun e =>
      (index, .invalidValue c.reference c.value.toText e.toText)

def leafHeader [Calendar] (s : Search) (f : Field) (data : DataSpec) (c : Cell) : Header :=
  match s.grid.probe c f.direction f.distance with
  | .error e => { field := f, cell := c, problems := [geometryProblem c e] }
  | .ok origin =>
    let (cells, problems) := s.run f.direction data origin
    { field := f, cell := c, data := cells, problems, mismatches := mismatches data cells }

/-- The cells among which the children of a header are looked for. -/
def childRegion (s : Search) (f : Field) (c : Cell) : List Cell :=
  match f.body with
  | .group => s.grid.probeAll c f.direction f.distance
  | .leaf _ => []

/-- The header of a field at a cell, given the problems of looking for its children. Where there
is nowhere to look, only that is a problem. -/
def header [Calendar] (s : Search) (f : Field) (c : Cell) (missing : List Problem) : Header :=
  match f.body with
  | .leaf data => s.leafHeader f data c
  | .group =>
    let problems :=
      if (s.childRegion f c).isEmpty then
        [geometryProblem c (.noCell c.reference f.direction f.distance)]
      else missing
    { field := f, cell := c, problems }

/-- Binds fields that stand side by side, each to the cell that `locate` finds for it. Required
fields without a cell are problems of the level. -/
def bind [Calendar] (s : Search) (locate : Field → Option Cell) :
    Forest Field → Forest Header × List Problem
  | .nil => (.nil, [])
  | .node f children siblings =>
    let (headers, problems) := s.bind locate siblings
    match locate f with
    | some c =>
      let region := s.childRegion f c
      let locateChild := fun child : Field => region.find? fun k => child.matcher.test k
      let (inner, missing) := s.bind locateChild children
      (.node (s.header f c missing) inner headers, problems)
    | none =>
      (headers, if f.necessity.isRequired then .headerNotFound f.path :: problems else problems)

/-- Where the root fields of one occurrence lie: the anchor at its cell, another root at the
closest of the cells that belong to this occurrence. -/
def locateRoot (s : Search) (candidates anchors : List Cell) (occurrence : Nat) (anchor : Cell)
    (f : Field) : Option Cell :=
  if f.id = s.layout.anchor.id then some anchor
  else leastBy anchor.distance <| candidates.filter fun c =>
    f.matcher.test c && nearestAnchor? anchors c == some occurrence

end Search
end SheetTables
