import SheetTables.Grid.Cell

/-! # Criteria

How a sheet is scanned: the area that is searched, the texts that count as no value, and the
limits set to runs of data.
-/

namespace SheetTables

structure Criteria where
  range : Option Range := none
  nulls : List String := [""]
  endAtEmptyCell : Bool := false
  maxRun : Option Nat := none

namespace Criteria

def isNull (c : Criteria) : Value → Bool
  | .empty => true
  | .text s => c.nulls.contains s
  | _ => false

/-- Takes what counts as no value for none. -/
def normalize (c : Criteria) (v : Value) : Value :=
  if c.isNull v then .empty else v

/-- A grid on which null texts are absent. -/
def view (c : Criteria) (g : Grid) : Grid :=
  { g with valueAt := fun row col => c.normalize (g.valueAt row col) }

end Criteria
end SheetTables
