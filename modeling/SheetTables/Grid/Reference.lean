import SheetTables.Grid.Range
import SheetTables.Number.Numeral
import SheetTables.Text.Blank

/-! # References

References name positions and ranges in text: letters for the column, a number for the row, and
a colon between the corners of a range. Column letters count in base twenty-six without a zero:
`A` to `Z`, then `AA`. Rows are written from one. A reference beyond the greatest index names
nothing.
-/

namespace SheetTables

def isLetter (c : Char) : Bool :=
  ('A' ≤ c && c ≤ 'Z') || ('a' ≤ c && c ≤ 'z')

/-- The value of a letter, in either case: one for `A`, twenty-six for `Z`. -/
def letterValue (c : Char) : Nat :=
  c.toUpper.toNat - 65 + 1

def indexed? (n : Nat) : Option Nat :=
  if n ≤ maxIndex then some n else none

/-- The value of letters with one more after them, as long as neither the multiplication nor the
addition exceeds the greatest index. -/
def appendLetter? (value : Nat) (c : Char) : Option Nat :=
  (indexed? (26 * value)).bind fun shifted => indexed? (shifted + letterValue c)

/-- The column named by letters, most significant letter first. -/
def columnOfLetters? (s : List Char) : Option Nat :=
  if s.isEmpty || !s.all isLetter then none
  else (s.foldlM appendLetter? 0).map (· - 1)

def rowOfNumber? (s : String) : Option Nat :=
  match sizeOfText? s with
  | some (n + 1) => some n
  | _ => none

/-- The letters of the column before the `n`th, in front of `tail`. -/
def columnLetters (n : Nat) (tail : List Char) : List Char :=
  match n with
  | 0 => tail
  | m + 1 => columnLetters (m / 26) (Char.ofNat (65 + m % 26) :: tail)
termination_by n
decreasing_by omega

/-- The letters of a column with `col < maxIndex`. The count from one of the column at the greatest
index is itself past that index, and nothing is said about how such a column is written. -/
def columnName (col : Nat) : String :=
  String.ofList (columnLetters (col + 1) [])

/-- A position is named with `row < maxIndex` and `col < maxIndex`. -/
def positionName (row col : Nat) : String :=
  columnName col ++ toString (row + 1)

namespace Range

/-- A range of one position is written as that position. -/
def toText (r : Range) : String :=
  if r.isSingle then positionName r.top r.left
  else positionName r.top r.left ++ ":" ++ positionName r.bottom r.right

/-- Reads capital letters and then digits from the head of a text: a row, a column and the rest. -/
def corner? (s : List Char) : Option ((Nat × Nat) × List Char) :=
  let rest := s.dropWhile isLetter
  let digits := rest.takeWhile Char.isDigit
  match columnOfLetters? (s.takeWhile isLetter), rowOfNumber? (String.ofList digits) with
  | some col, some row => some ((row, col), rest.dropWhile Char.isDigit)
  | _, _ => none

def ofChars? (s : List Char) : Option Range :=
  match corner? s with
  | some ((row, col), []) => some (single row col)
  | some ((rowA, colA), ':' :: rest) =>
    match corner? rest with
    | some ((rowB, colB), []) => some (ofCorners rowA colA rowB colB)
    | _ => none
  | _ => none

/-- The text that is read as a range: trimmed, and with capital letters. -/
def normalText (s : String) : String := (trim s).toUpper

def ofText? (s : String) : Option Range :=
  ofChars? (normalText s).toList

end Range
end SheetTables
