import SheetTables.Number.Double

/-! # Decimal text of numbers

A number is written with the fewest decimal digits that read back as the same number, and of
those the nearest; a tie goes up. All digits are written in their places: there is no exponent.
-/

namespace SheetTables.Double

/-- The magnitudes that are read back as `significand * 2 ^ exponent`, in quarters of
`2 ^ exponent`. Below a power of two the neighbour is half as far. -/
def lowQuarters (x : Double) : Nat :=
  let m := x.significand
  if m = Nat.pow 2 52 ∧ -1074 < x.exponent then 4 * m - 1 else 4 * m - 2

def highQuarters (x : Double) : Nat := 4 * x.significand + 2

/-- Whether `num / den` quarters lie between the two ends. An even significand takes the ends in. -/
def admits (x : Double) (num den : Nat) : Bool :=
  if x.significand % 2 = 0 then x.lowQuarters * den ≤ num && num ≤ x.highQuarters * den
  else x.lowQuarters * den < num && num < x.highQuarters * den

/-- The multiple of `10 ^ place` that is written for a number, if one reads back: of the two
multiples around it the nearer that does. -/
def atPlace? (x : Double) (place : Int) : Option Nat :=
  -- the number is `num / den` grid steps; a grid step is `step / unit` quarters
  let e := x.exponent
  let unit := Nat.pow 10 (-place).toNat * Nat.pow 2 e.toNat
  let step := 4 * Nat.pow 10 place.toNat * Nat.pow 2 (-e).toNat
  let value := 4 * x.significand * unit
  let low := value / step
  let lowFits := x.admits (low * step) unit
  let highFits := x.admits ((low + 1) * step) unit
  if lowFits && (!highFits || 2 * (value - low * step) < step) then some low
  else if highFits then some (low + 1) else none

def shortestFrom (x : Double) (place : Int) : Nat → Nat × Int
  | 0 => (0, 0)
  | n + 1 =>
    match x.atPlace? place with
    | some digits => (digits, place)
    | none => shortestFrom x (place - 1) n

/-- The digits written for a finite magnitude above zero and the place of the last of them. No
number needs more than eighteen grids below its own size. -/
def shortest (x : Double) : Nat × Int :=
  let size : Int := x.significand.log2 + x.exponent
  let top := if 0 ≤ size then size * 30103 / 100000 + 1 else size * 30102 / 100000 + 1
  shortestFrom x top 22

/-- The digits of a natural number with a point before the last `places` of them. -/
def placed (digits : Nat) (place : Int) : String :=
  if 0 ≤ place then toString (digits * Nat.pow 10 place.toNat)
  else
    let places := (-place).toNat
    let fraction := (toString (digits % Nat.pow 10 places)).toList
    let zeros := List.replicate (places - fraction.length) '0'
    toString (digits / Nat.pow 10 places) ++ "." ++ String.ofList (zeros ++ fraction)

def toText (x : Double) : String :=
  if x.isNaN then "NaN"
  else
    let text :=
      if x.isInfinite then "inf"
      else if x.magnitude = 0 then "0"
      else placed x.shortest.1 x.shortest.2
    if x.isNegative then "-" ++ text else text

end SheetTables.Double
