import SheetTables.Extraction.Problem
import SheetTables.Layout.Criteria
import SheetTables.Layout.Table

/-! # Runs of data

The cells that belong to a leaf, one after the other from its origin on. A fixed run has as many
cells as asked, whatever they hold. An open run ends before a header of the table, a boundary,
the edge of the area or a limit set by the criteria. A step that leads to no cell or to several
ends a run with a problem at its last cell.
-/

namespace SheetTables

/-- Where tables of one layout are looked for: the grid with null texts absent, and the area of
it that is searched. -/
structure Search where
  grid : Grid
  area : Range
  criteria : Criteria
  layout : TableLayout

def geometryProblem (c : Cell) (e : ProbeError) : Problem :=
  .inconsistentGeometry c.reference e

namespace Search

/-- Whether a cell is the header of any field of the table. -/
def isHeader (s : Search) (c : Cell) : Bool :=
  s.layout.fields.any (·.matcher.test c)

/-- The cells from one on, `more` at most beyond it. -/
def fixedRun (s : Search) (d : Direction) : Nat → Cell → List Cell × List Problem
  | 0, c => ([c], [])
  | more + 1, c =>
    match s.grid.probe c d 1 with
    | .ok next =>
      let (cells, problems) := s.fixedRun d more next
      (c :: cells, problems)
    | .error e => ([c], [geometryProblem c e])

/-- Whether an open run that has taken so many cells ends before a cell. -/
def endsBefore (s : Search) (boundary : Option (Matcher Cell)) (taken : Nat) (c : Cell) : Bool :=
  s.criteria.maxRun.any (· ≤ taken) ||
    !s.area.intersects c.range || s.isHeader c ||
    boundary.any (·.test c) ||
    (s.criteria.endAtEmptyCell && c.isEmpty)

/-- The cells of an open run from one on, in so many steps at most. -/
def openRun (s : Search) (d : Direction) (boundary : Option (Matcher Cell)) :
    Nat → Nat → Cell → List Cell × List Problem
  | 0, _, _ => ([], [])
  | room + 1, taken, c =>
    if s.endsBefore boundary taken c then ([], [])
    else if d.isBorder c.range s.area then ([c], [])
    else match s.grid.probe c d 1 with
      | .ok next =>
        let (cells, problems) := s.openRun d boundary room (taken + 1) next
        (c :: cells, problems)
      | .error e => ([c], [geometryProblem c e])

/-- How many rows or columns of the area lie past a range, which bounds the steps of a run. -/
def room (s : Search) (d : Direction) (r : Range) : Nat :=
  match d with
  | .up => r.top - s.area.top
  | .down => s.area.bottom - r.bottom
  | .left => r.left - s.area.left
  | .right => s.area.right - r.right

def run (s : Search) (d : Direction) (data : DataSpec) (origin : Cell) :
    List Cell × List Problem :=
  let opened := fun boundary => s.openRun d boundary (s.room d origin.range + 1) 0 origin
  match data.layout with
  | .fixed count => s.fixedRun d (count - 1) origin
  | .unfixed => opened none
  | .mixed => opened data.boundary

end Search
end SheetTables
