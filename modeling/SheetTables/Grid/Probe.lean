import SheetTables.Grid.Cell
import SheetTables.Grid.Direction

/-! # Probing

A probe walks over logical cells, one step at a time. A step from a cell leads to every cell
that lies in the strip next to it; so a merged region is one step wide whatever it covers, and a
step may lead to several cells or to none.
-/

namespace SheetTables

inductive ProbeError where
  | noCell (origin : String) (direction : Direction) (distance : Nat)
  | ambiguous (origin : String) (direction : Direction) (distance count : Nat)
deriving DecidableEq

def ProbeError.message : ProbeError → String
  | noCell origin d n =>
    "no cell " ++ toString n ++ " step(s) " ++ d.name ++ " of " ++ origin
  | ambiguous origin d n count =>
    toString count ++ " cells found " ++ toString n ++ " step(s) " ++ d.name ++ " of " ++ origin ++
      ", expected exactly one"

namespace Grid

def beside (g : Grid) (d : Direction) (c : Cell) : List Cell :=
  match d.shift? c.range 1 with
  | some strip => g.cellsIn strip
  | none => []

/-- One step from each of some cells; a cell that is reached twice is kept once. -/
def step (g : Grid) (d : Direction) (cells : List Cell) : List Cell :=
  (cells.flatMap (g.beside d)).eraseDups

def steps (g : Grid) (d : Direction) : Nat → List Cell → List Cell
  | 0, cells => cells
  | n + 1, cells => g.steps d n (g.step d cells)

/-- The cells `distance` steps away from a cell. -/
def probeAll (g : Grid) (c : Cell) (d : Direction) (distance : Nat) : List Cell :=
  g.steps d distance [c]

/-- The only cell `distance` steps away; to find none or several is an error. -/
def probe (g : Grid) (c : Cell) (d : Direction) (distance : Nat) : Except ProbeError Cell :=
  match g.probeAll c d distance with
  | [k] => .ok k
  | [] => .error (.noCell c.reference d distance)
  | ks => .error (.ambiguous c.reference d distance ks.length)

end Grid
end SheetTables
