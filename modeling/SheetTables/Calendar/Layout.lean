import SheetTables.Calendar.Timestamp

/-! # Layouts of dates and times

A layout is made of parts, most of which are written with a percent sign: the numbers of a date or
time, a fraction of a second, blanks, and marks that stand for themselves. What a text says is
gathered part by part, and comes to a day or a timestamp once enough is known.
-/

namespace SheetTables.Calendar

inductive Slot where
  | month | day | hour | minute | second
deriving DecidableEq

inductive Part where
  | year
  | slot (s : Slot)
  | fraction
  | blanks
  | mark (c : Char) (plain : isBlank c = false)
deriving DecidableEq

def Slot.symbol : Slot → Char
  | month => 'm'
  | day => 'd'
  | hour => 'H'
  | minute => 'M'
  | second => 'S'

def Slot.ofSymbol? : Char → Option Slot
  | 'm' => some month
  | 'd' => some day
  | 'H' => some hour
  | 'M' => some minute
  | 'S' => some second
  | _ => none

def Part.spelling : Part → List Char
  | year => ['%', 'Y']
  | slot s => ['%', s.symbol]
  | fraction => ['%', '.', 'f']
  | blanks => [' ']
  | mark c _ => if c = '%' then ['%', '%'] else [c]

def spell (layout : List Part) : String :=
  String.ofList (layout.flatMap Part.spelling)

/-- The decimal digits of a number, with zeros before it up to `width` characters. -/
def padded (width n : Nat) : String :=
  let digits := toString n
  String.ofList (List.replicate (width - digits.length) '0') ++ digits

/-- Years have four digits at least; a year outside of four digits carries its sign. -/
def yearText (year : Int) : String :=
  let digits := padded 4 year.natAbs
  if year < 0 then "-" ++ digits else if 9999 < year then "+" ++ digits else digits

/-- Three, six or nine digits after a point, or nothing at all. -/
def fractionText (nanosecond : Nat) : String :=
  if nanosecond = 0 then ""
  else if nanosecond % 1000000 = 0 then "." ++ padded 3 (nanosecond / 1000000)
  else if nanosecond % 1000 = 0 then "." ++ padded 6 (nanosecond / 1000)
  else "." ++ padded 9 nanosecond

/-- A leap second is the second 60. -/
def Slot.number (t : Timestamp) : Slot → Nat
  | month => t.month
  | day => t.day
  | hour => t.hour
  | minute => t.minute
  | second => t.second + t.nanosecond / 1000000000

def Part.text (t : Timestamp) : Part → String
  | year => yearText t.year
  | slot s => padded 2 (s.number t)
  | fraction => fractionText (t.nanosecond % 1000000000)
  | blanks => " "
  | mark c _ => String.singleton c

structure Draft where
  year : Option Int := none
  slots : Slot → Option Nat := fun _ => none
  nanosecond : Option Nat := none

namespace Draft

def put (d : Draft) (s : Slot) (n : Nat) : Draft :=
  { d with slots := fun s' => if s' = s then some n else d.slots s' }

def day? (d : Draft) : Option Day :=
  match d.year, d.slots .month, d.slots .day with
  | some year, some month, some day =>
    if h : IsDate year month day then some ⟨year, month, day, h⟩ else none
  | _, _, _ => none

/-- The second 60 is the leap second after 59. -/
def timestamp? (d : Draft) : Option Timestamp :=
  match d.day?, d.slots .hour, d.slots .minute with
  | some day, some hour, some minute =>
    let second := (d.slots .second).getD 0
    let nanosecond := d.nanosecond.getD 0
    if second = 60 then
      Timestamp.of? day.year day.month day.day hour minute 59 (1000000000 + nanosecond)
    else Timestamp.of? day.year day.month day.day hour minute second nanosecond
  | _, _, _ => none

end Draft
end SheetTables.Calendar
