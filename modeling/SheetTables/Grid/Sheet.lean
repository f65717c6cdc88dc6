import SheetTables.Grid.Cell

/-! # Sheets

A sheet holds values by position and merged regions that never overlap. To merge a region frees
the regions that it meets. The extent is the smallest range around everything that was ever
put on the sheet; clearing a position does not shrink it.
-/

namespace SheetTables

structure Sheet where
  name : String
  values : List ((Nat × Nat) × Value) := []
  merged : List Range := []
  extent? : Option Range := none
  disjoint : merged.Pairwise (fun r s => r.intersects s = false) := by exact .nil

theorem Range.intersects_comm (r s : Range) : r.intersects s = s.intersects r := by
  unfold Range.intersects
  rw [Bool.eq_iff_iff]
  simp only [Bool.and_eq_true, decide_eq_true_eq]
  omega

namespace Sheet

def ofName (name : String) : Sheet := { name }

def isEmpty (s : Sheet) : Bool := s.values.isEmpty && s.merged.isEmpty

def extended (extent? : Option Range) (row col : Nat) : Range :=
  match extent? with
  | some r => r.including row col
  | none => .single row col

/-- Puts a value at a position. An empty value only clears it. -/
def push (s : Sheet) (row col : Nat) (v : Value) : Sheet :=
  let others := s.values.filter fun entry => entry.1 != (row, col)
  if v.isEmpty then { s with values := others }
  else { s with
    values := ((row, col), v) :: others
    extent? := some (extended s.extent? row col) }

def merge (s : Sheet) (r : Range) : Sheet where
  name := s.name
  values := s.values
  merged := r :: s.merged.filter fun m => !m.intersects r
  extent? := some ((extended s.extent? r.top r.left).including r.bottom r.right)
  disjoint := by
    refine .cons ?_ (s.disjoint.sublist List.filter_sublist)
    intro m hm
    have h := (List.mem_filter.1 hm).2
    rw [Range.intersects_comm]
    simpa using h

inductive Edit where
  | push (row col : Nat) (v : Value)
  | merge (r : Range)

def apply (s : Sheet) : Edit → Sheet
  | .push row col v => s.push row col v
  | .merge r => s.merge r

def ofEdits (name : String) (edits : List Edit) : Sheet :=
  edits.foldl apply (ofName name)

/-- The edits that fill a sheet with rows of values from the top left corner on. -/
def rowEdits (rows : List (List Value)) : List Edit :=
  rows.zipIdx.flatMap fun (values, row) =>
    values.zipIdx.map fun (v, col) => .push row col v

def valueAt (s : Sheet) (row col : Nat) : Value :=
  (s.values.lookup (row, col)).getD .empty

def mergedAt? (s : Sheet) (row col : Nat) : Option Range :=
  s.merged.find? (·.contains row col)

def grid (s : Sheet) : Grid where
  name := s.name
  extent? := s.extent?
  mergedAt? := s.mergedAt?
  valueAt := s.valueAt

end Sheet

structure Workbook where
  name : String
  sheets : List Sheet

end SheetTables
