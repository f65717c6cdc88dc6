/-! # Ranges

A range is an inclusive rectangle of positions, rows and columns being counted from zero. It is
never empty. Ranges behave as the sets of their positions.
-/

namespace SheetTables

def maxIndex : Nat := Nat.pow 2 64 - 1

structure Range where
  top : Nat
  left : Nat
  bottom : Nat
  right : Nat
  top_le_bottom : top ≤ bottom := by omega
  left_le_right : left ≤ right := by omega
deriving DecidableEq

namespace Range

/-- The range between two corners, whatever their order. -/
def ofCorners (rowA colA rowB colB : Nat) : Range where
  top := min rowA rowB
  left := min colA colB
  bottom := max rowA rowB
  right := max colA colB

def single (row col : Nat) : Range where
  top := row
  left := col
  bottom := row
  right := col

def contains (r : Range) (row col : Nat) : Bool :=
  r.top ≤ row && row ≤ r.bottom && r.left ≤ col && col ≤ r.right

def intersects (r s : Range) : Bool :=
  r.top ≤ s.bottom && s.top ≤ r.bottom && r.left ≤ s.right && s.left ≤ r.right

def intersection? (r s : Range) : Option Range :=
  if h : max r.top s.top ≤ min r.bottom s.bottom ∧ max r.left s.left ≤ min r.right s.right then
    some ⟨max r.top s.top, max r.left s.left, min r.bottom s.bottom, min r.right s.right, h.1, h.2⟩
  else none

def isSingle (r : Range) : Bool :=
  r.top == r.bottom && r.left == r.right

/-- The positions of a range, row by row. -/
def positions (r : Range) : List (Nat × Nat) :=
  (List.range' r.top (r.bottom + 1 - r.top)).flatMap fun row =>
    (List.range' r.left (r.right + 1 - r.left)).map fun col => (row, col)

/-- The smallest range around a range and a position. -/
def including (r : Range) (row col : Nat) : Range where
  top := min r.top row
  left := min r.left col
  bottom := max r.bottom row
  right := max r.right col
  top_le_bottom := by have := r.top_le_bottom; omega
  left_le_right := by have := r.left_le_right; omega

/-- How far apart the top left corners of two ranges are, in steps along rows and columns. -/
def cornerSteps (r s : Range) : Nat :=
  (r.top - s.top) + (s.top - r.top) + ((r.left - s.left) + (s.left - r.left))

/-- The count of these steps, which starts again from zero after the greatest index. -/
def cornerDistance (r s : Range) : Nat :=
  r.cornerSteps s % (maxIndex + 1)

theorem cornerDistance_of_le {r s : Range} (h : r.cornerSteps s ≤ maxIndex) :
    r.cornerDistance s = r.cornerSteps s :=
  Nat.mod_eq_of_lt (Nat.lt_succ_of_le h)

end Range
end SheetTables
