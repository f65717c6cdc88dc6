import SheetTables.Extraction.Recognition

/-! # Tables

A table is one occurrence of a layout on a sheet: its headers, and the records assembled from
their data. The problems of a table are the headers that it lacks, then those of its headers,
then those of its records.
-/

namespace SheetTables

structure Table where
  layout : TableLayout
  headers : Forest Header
  records : List Record
  problems : List Problem

def leafHeaders (headers : Forest Header) : List Header :=
  headers.toList.filter (·.field.isLeaf)

def longestRun (leaves : List Header) : Nat :=
  leaves.foldl (fun n h => max n h.data.length) 0

def recordAt (leaves : List Header) (index : Nat) : Record where
  index := index
  entries := leaves.filterMap (·.entryAt? index)

def records (leaves : List Header) : List Record :=
  ((List.range (longestRun leaves)).map (recordAt leaves)).filter (!·.isEmpty)

def Header.faults [Calendar] (h : Header) (index : Nat) : List Problem :=
  match h.data[index]?, h.field.data? with
  | some c, some data => data.validators.flatMap fun v =>
    (v.faults c).map fun m => .within h.path (.invalidValue c.reference c.value.toText m)
  | _, _ => []

/-- The problems of one record: values that do not match, then values and records at fault. -/
def recordProblems [Calendar] (t : TableLayout) (leaves : List Header) (r : Record) :
    List Problem :=
  (leaves.filterMap fun h => (h.mismatch? r.index).map (.within h.path)) ++
    leaves.flatMap (·.faults r.index) ++
    t.validators.flatMap fun v => (v.faults r).map (.invalidRecord r.index)

namespace Table

def assemble [Calendar] (t : TableLayout) (headers : Forest Header) (missing : List Problem) :
    Table :=
  let leaves := leafHeaders headers
  { layout := t
    headers
    records := SheetTables.records leaves
    problems := missing ++ headers.toList.flatMap (fun h => prefixed h.path h.problems) ++
      (SheetTables.records leaves).flatMap (recordProblems t leaves) }

def name (t : Table) : String := t.layout.name

def header? (t : Table) (path : String) : Option Header :=
  t.headers.toList.find? (·.path == path)

end Table

namespace Search

def table [Calendar] (s : Search) (candidates anchors : List Cell) (anchor : Cell)
    (occurrence : Nat) : Table :=
  let locate := s.locateRoot candidates anchors occurrence anchor
  let (headers, missing) := s.bind locate s.layout.forest
  .assemble s.layout headers missing

def missingAnchor (t : TableLayout) : List Problem :=
  if t.anchor.necessity.isRequired && t.necessity.isRequired then
    [.headerNotFound t.anchor.path]
  else []

def tables [Calendar] (s : Search) : List Table :=
  let candidates := s.grid.cellsIn s.area
  let anchors := candidates.filter fun c => s.layout.anchor.matcher.test c
  anchors.zipIdx.map fun (anchor, occurrence) => s.table candidates anchors anchor occurrence

end Search

def searchArea? (g : Grid) (criteria : Criteria) : Option Range :=
  match g.extent?, criteria.range with
  | some extent, some range => range.intersection? extent
  | some extent, none => some extent
  | none, _ => none

/-- Finds the tables of one layout, and the problem of finding none. An empty grid has neither. -/
def recognize [Calendar] (layout : TableLayout) (g : Grid) (criteria : Criteria) :
    List Table × List Problem :=
  if g.extent?.isNone then ([], [])
  else
    let tables := match searchArea? g criteria with
      | some area => Search.tables { grid := criteria.view g, area, criteria, layout }
      | none => []
    (tables, if tables.isEmpty then Search.missingAnchor layout else [])

end SheetTables
