import SheetTables.Calendar.Timestamp
import SheetTables.Number.Decimal
import SheetTables.Number.Numeral

/-! # Cell values

What a position of a sheet holds, how it is written, and how one kind of value is read as
another. Text that holds a numeral counts as a number wherever a number is wanted.
-/

namespace SheetTables

inductive Value where
  | empty
  | text (s : String)
  | number (x : Double)
  | boolean (b : Bool)
  | moment (t : Timestamp)
deriving DecidableEq

namespace Value

def isEmpty : Value → Bool
  | empty => true
  | _ => false

/-- Whole numbers below `10 ^ 15` are written as integers, so that a zero has no sign. -/
def numberText (x : Double) : String :=
  match x.toInt? with
  | some n => if n.natAbs < Nat.pow 10 15 then toString n else x.toText
  | none => x.toText

def toText [Calendar] : Value → String
  | empty => ""
  | text s => s
  | number x => numberText x
  | boolean b => if b then "true" else "false"
  | moment t => t.toText

def text? [Calendar] : Value → Option String
  | empty => none
  | v => some v.toText

def number? : Value → Option Double
  | number x => some x
  | text s => Double.ofText? (trim s)
  | _ => none

def boolean? : Value → Option Bool
  | boolean b => some b
  | text s =>
    match (trim s).toUpper with
    | "TRUE" => some true
    | "FALSE" => some false
    | _ => none
  | _ => none

def moment? [Calendar] : Value → Option Timestamp
  | moment t => some t
  | text s => Timestamp.ofText? s
  | _ => none

/-- Values of one kind are ordered as that kind is; a number is also compared with a text that
holds a number. -/
def compare? : Value → Value → Option Ordering
  | text a, text b => some (compare a b)
  | boolean a, boolean b => some (compare a b)
  | moment a, moment b => some (a.compare b)
  | a@(number _), b | a, b@(number _) =>
    match a.number?, b.number? with
    | some x, some y => x.compare? y
    | _, _ => none
  | _, _ => none

/-- Equality within one kind; as among numbers, what is not a number differs from itself. -/
def equals : Value → Value → Bool
  | number a, number b => a.equals b
  | a, b => a == b

end Value
end SheetTables
