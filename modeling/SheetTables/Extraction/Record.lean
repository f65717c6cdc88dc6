import SheetTables.Grid.Cell

/-! # Records

A record joins the data cells that stand at one place in the runs of a table.
-/

namespace SheetTables

/-- A cell of a record, under the number and the path of its field. -/
structure Entry where
  field : Nat
  path : String
  cell : Cell

structure Record where
  index : Nat
  entries : List Entry

namespace Record

def present (v : Value) : Option Value :=
  if v.isEmpty then none else some v

def cell? (r : Record) (field : Nat) : Option Cell :=
  (r.entries.find? (·.field == field)).map (·.cell)

def get? (r : Record) (field : Nat) : Option Value :=
  (r.cell? field).bind fun c => present c.value

def value? (r : Record) (path : String) : Option Value :=
  (r.entries.find? (·.path == path)).bind fun e => present e.cell.value

/-- The values by path, absent ones included. Of two entries with one path the later counts. -/
def toMap (r : Record) : List (String × Value) :=
  r.entries.foldl (fun m e => (m.filter (·.1 != e.path)) ++ [(e.path, e.cell.value)]) []

def isEmpty (r : Record) : Bool :=
  r.entries.all (·.cell.isEmpty)

end Record
end SheetTables
