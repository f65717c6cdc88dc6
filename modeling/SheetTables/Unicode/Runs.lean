/-! # Tables in runs

The tables of Unicode data are texts of numbers. A number is written in base twenty-six: capital
letters are its digits but the last, which is a small letter.
-/

namespace SheetTables.Unicode

/-- Reads numbers, where `n` is what the digits read so far amount to. -/
def numbersFrom (n : Nat) : List Char → List Nat
  | [] => []
  | c :: s =>
    if c.toNat < 97 then numbersFrom (26 * n + (c.toNat - 65)) s
    else (26 * n + (c.toNat - 97)) :: numbersFrom 0 s

def numbers (texts : List String) : List Nat :=
  numbersFrom 0 (String.join texts).toList

end SheetTables.Unicode
