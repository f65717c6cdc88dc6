import SheetTables.Extraction.Problem
import SheetTables.Extraction.Record
import SheetTables.Layout.Field

/-! # Headers

A field that has been found on a sheet: the cell of its header, and the run of data cells if it
is a leaf. The headers of a table make a forest like that of the fields.
-/

namespace SheetTables

/-- A header with its own problems, and with those of its values by their place in the run. -/
structure Header where
  field : Field
  cell : Cell
  data : List Cell := []
  problems : List Problem := []
  mismatches : List (Nat × Problem) := []

namespace Header

def path (h : Header) : String := h.field.path

def mismatch? (h : Header) (index : Nat) : Option Problem :=
  h.mismatches.lookup index

def entryAt? (h : Header) (index : Nat) : Option Entry :=
  h.data[index]?.map fun cell => { field := h.field.id, path := h.path, cell }

end Header
end SheetTables
