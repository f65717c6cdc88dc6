import SheetTables.Number.Double

/-! # Numerals

How numbers are read. A numeral is an optional sign before either a name (`inf`, `infinity`,
`nan`, in any case) or decimal digits with at most one point among them and an optional
exponent; at least one digit stands beside the point. The number read is the nearest one.
-/

namespace SheetTables

/-- Reads decimal digits into a number, most significant first, after `start`. -/
def digitsFrom (start : Nat) (s : List Char) : Nat :=
  s.foldl (fun n c => 10 * n + (c.toNat - 48)) start

def natOfDigits? (s : List Char) : Option Nat :=
  if s.isEmpty || !s.all Char.isDigit then none else some (digitsFrom 0 s)

/-- A count or an index: digits after an optional plus sign, below `2 ^ 64`. -/
def sizeOfText? (s : String) : Option Nat :=
  let digits := match s.toList with
    | '+' :: rest => rest
    | rest => rest
  (natOfDigits? digits).filter (· < Nat.pow 2 64)

namespace Numeral

def sign : List Char → Bool × List Char
  | '-' :: s => (true, s)
  | '+' :: s => (false, s)
  | s => (false, s)

/-- What stands after the digits of a mantissa: nothing, or an exponent of at least one digit. -/
def exponent? : List Char → Option Int
  | [] => some 0
  | c :: s =>
    if c = 'e' || c = 'E' then
      let (negative, digits) := sign s
      (natOfDigits? digits).map fun n => if negative then -(n : Int) else n
    else none

/-- The decimal `mantissa * 10 ^ scale`. The bounds keep a far exponent from being computed:
beyond them a decimal of that length is infinite or zero. -/
def ofDecimal (negative : Bool) (mantissa length : Nat) (scale : Int) : Double :=
  if mantissa = 0 ∨ scale + length < -400 then Double.ofPattern negative 0
  else if 400 < scale then Double.ofPattern negative Double.infinityPattern
  else Double.ofQuotient negative (mantissa * Nat.pow 10 scale.toNat) (Nat.pow 10 (-scale).toNat)

def unsigned? (negative : Bool) (s : List Char) : Option Double :=
  let whole := s.takeWhile Char.isDigit
  let rest := s.dropWhile Char.isDigit
  let (fraction, rest) := match rest with
    | '.' :: r => (r.takeWhile Char.isDigit, r.dropWhile Char.isDigit)
    | r => ([], r)
  let digits := whole ++ fraction
  if digits.isEmpty then none
  else (exponent? rest).map fun e =>
    ofDecimal negative (digitsFrom 0 digits) digits.length (e - fraction.length)

def named? (negative : Bool) (s : List Char) : Option Double :=
  match String.ofList (s.map Char.toLower) with
  | "inf" | "infinity" => some (.ofPattern negative Double.infinityPattern)
  | "nan" => some (.ofPattern negative Double.nan.magnitude)
  | _ => none

end Numeral

def Double.ofText? (s : String) : Option Double :=
  let (negative, rest) := Numeral.sign s.toList
  (Numeral.named? negative rest).or (Numeral.unsigned? negative rest)

end SheetTables
