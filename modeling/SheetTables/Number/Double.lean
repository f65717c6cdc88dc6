/-! # Numbers of 64 bits

A number is kept as its IEEE 754 pattern: a sign, eleven bits of exponent and fifty-two of
fraction. All operations are exact integer arithmetic on that pattern; magnitudes are ordered
as their patterns are, so the order of numbers is the order of signed patterns.
-/

namespace SheetTables

structure Double where
  bits : UInt64
deriving DecidableEq, Inhabited

namespace Double

/-- The pattern of positive infinity; the patterns above it are not numbers. -/
def infinityPattern : Nat := 0x7FF0000000000000

def magnitude (x : Double) : Nat := x.bits.toNat % Nat.pow 2 63

def isNegative (x : Double) : Bool := Nat.pow 2 63 ≤ x.bits.toNat

def isNaN (x : Double) : Bool := infinityPattern < x.magnitude

def isInfinite (x : Double) : Bool := x.magnitude == infinityPattern

def ofPattern (negative : Bool) (magnitude : Nat) : Double :=
  ⟨UInt64.ofNat (if negative then Nat.pow 2 63 + magnitude else magnitude)⟩

def nan : Double := ofPattern false 0x7FF8000000000000

/-- The pattern with its sign, so that both zeros have the rank 0. -/
def rank (x : Double) : Int :=
  if x.isNegative then -(x.magnitude : Int) else x.magnitude

def compare? (x y : Double) : Option Ordering :=
  if x.isNaN || y.isNaN then none else some (compare x.rank y.rank)

def equals (x y : Double) : Bool := x.compare? y == some .eq

/-- A finite magnitude is `significand * 2 ^ exponent`. -/
def significand (x : Double) : Nat :=
  let fraction := x.magnitude % Nat.pow 2 52
  if x.magnitude < Nat.pow 2 52 then fraction else Nat.pow 2 52 + fraction

def exponent (x : Double) : Int :=
  (max (x.magnitude / Nat.pow 2 52) 1 : Nat) - 1075

/-- Rounds a quotient to the nearest natural number, a tie to the even one. -/
def roundQuotient (num den : Nat) : Nat :=
  let q := num / den
  let r := num % den
  if 2 * r < den then q
  else if den < 2 * r then q + 1
  else if q % 2 = 0 then q else q + 1

/-- The exponent under which `num / den` has a significand of 53 bits, or the least one. -/
def quotientExponent (num den : Nat) : Int :=
  let guess : Int := max ((num.log2 : Int) - den.log2 - 53) (-1074)
  if Nat.pow 2 53 * den * Nat.pow 2 guess.toNat ≤ num * Nat.pow 2 (-guess).toNat then guess + 1
  else guess

/-- The pattern of the magnitude nearest to `num / den`, a tie going to the even pattern. A
carry out of the significand runs into the exponent, and past the largest exponent all is
infinite. -/
def patternOfQuotient (num den : Nat) : Nat :=
  if num = 0 then 0 else
    let e := quotientExponent num den
    let m := roundQuotient (num * Nat.pow 2 (-e).toNat) (den * Nat.pow 2 e.toNat)
    min ((e + 1074).toNat * Nat.pow 2 52 + m) infinityPattern

def ofQuotient (negative : Bool) (num den : Nat) : Double :=
  ofPattern negative (patternOfQuotient num den)

def ofInt (n : Int) : Double :=
  ofQuotient (n < 0) n.natAbs 1

def toInt? (x : Double) : Option Int :=
  if infinityPattern ≤ x.magnitude then none else
    let whole :=
      if 0 ≤ x.exponent then some (x.significand * Nat.pow 2 x.exponent.toNat)
      else
        let unit := Nat.pow 2 (-x.exponent).toNat
        if x.significand % unit = 0 then some (x.significand / unit) else none
    whole.map fun n => if x.isNegative then -(n : Int) else n

end Double
end SheetTables
