import SheetTables.Grid.Range

/-! # Directions

Directions of travel on a grid. A step from a range leads to the strip, one cell thick, that
lies past its leading edge; no strip lies before the first row or column or past the last.
-/

namespace SheetTables

inductive Direction where
  | up | down | left | right
deriving DecidableEq

namespace Direction

def all : List Direction := [up, down, left, right]

def opposite : Direction → Direction
  | up => down
  | down => up
  | left => right
  | right => left

def isVertical : Direction → Bool
  | up | down => true
  | left | right => false

def isBorder (d : Direction) (r area : Range) : Bool :=
  match d with
  | up => r.top ≤ area.top
  | down => area.bottom ≤ r.bottom
  | left => r.left ≤ area.left
  | right => area.right ≤ r.right

/-- The strip `distance` steps past the leading edge, which is itself at distance zero. -/
def shift? (d : Direction) (r : Range) (distance : Nat) : Option Range :=
  match d with
  | up => if distance ≤ r.top then
      some ⟨r.top - distance, r.left, r.top - distance, r.right, Nat.le_refl _, r.left_le_right⟩
    else none
  | down => if r.bottom + distance ≤ maxIndex then
      some ⟨r.bottom + distance, r.left, r.bottom + distance, r.right, Nat.le_refl _,
        r.left_le_right⟩
    else none
  | left => if distance ≤ r.left then
      some ⟨r.top, r.left - distance, r.bottom, r.left - distance, r.top_le_bottom, Nat.le_refl _⟩
    else none
  | right => if r.right + distance ≤ maxIndex then
      some ⟨r.top, r.right + distance, r.bottom, r.right + distance, r.top_le_bottom, Nat.le_refl _⟩
    else none

def name : Direction → String
  | up => "up"
  | down => "down"
  | left => "left"
  | right => "right"

/-- Names are read in any case; the sides of a page are other names for the two verticals. -/
def ofName? (name : String) : Option Direction :=
  match name.toUpper with
  | "UP" | "TOP" => some up
  | "DOWN" | "BOTTOM" => some down
  | "LEFT" => some left
  | "RIGHT" => some right
  | _ => none

end Direction
end SheetTables
