import SheetTables.Grid.Reference
import SheetTables.Grid.Value

/-! # Logical cells

A logical cell is a merged region or a single position, with the value of its top left corner.
A grid is what a sheet shows of itself: its name, its extent, its merged regions and its values.
Two cells are the same when they lie on sheets of one name and cover the same range, wherever
in that range they were looked up.
-/

namespace SheetTables

structure Cell where
  sheet : String
  row : Nat
  col : Nat
  range : Range
  value : Value

namespace Cell

instance : BEq Cell where
  beq a b := a.sheet == b.sheet && a.range == b.range

def reference (c : Cell) : String := c.range.toText

def anchorReference (c : Cell) : String := positionName c.range.top c.range.left

def columnName (c : Cell) : String := SheetTables.columnName c.range.left

def isMerged (c : Cell) : Bool := !c.range.isSingle

def isEmpty (c : Cell) : Bool := c.value.isEmpty

def toText [Calendar] (c : Cell) : String := c.value.toText

end Cell

structure Grid where
  name : String
  extent? : Option Range
  mergedAt? : Nat → Nat → Option Range
  valueAt : Nat → Nat → Value

namespace Grid

def coverAt (g : Grid) (row col : Nat) : Range :=
  (g.mergedAt? row col).getD (.single row col)

def cellAt (g : Grid) (row col : Nat) : Cell where
  sheet := g.name
  row := row
  col := col
  range := g.coverAt row col
  value := g.valueAt (g.coverAt row col).top (g.coverAt row col).left

/-- Whether a position is the first, row by row, of those that a cover shares with a range. -/
def isFirstIn (r cover : Range) (row col : Nat) : Bool :=
  row == max r.top cover.top && col == max r.left cover.left

/-- The cells that lie in a range, each at its first position there, row by row. -/
def cellsIn (g : Grid) (r : Range) : List Cell :=
  (r.positions.filter fun p => isFirstIn r (g.coverAt p.1 p.2) p.1 p.2).map fun p =>
    g.cellAt p.1 p.2

end Grid
end SheetTables
