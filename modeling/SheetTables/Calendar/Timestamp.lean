import SheetTables.Text.Blank

/-! # Dates and times of day

A timestamp is a day of the proleptic Gregorian calendar with a time of day and no zone. Years
are signed and bounded. A leap second is the second 59 with a thousand million nanoseconds or
more. Timestamps are ordered in time. They are written and read by a calendar that comes from
outside and is told the layout: they are written to the second, and read with a date and a time
joined by `T`, with the two apart, or as a date alone, which means its midnight.
-/

namespace SheetTables

def isLeapYear (year : Int) : Bool :=
  year % 4 == 0 && (year % 100 != 0 || year % 400 == 0)

def daysInMonth (year : Int) (month : Nat) : Nat :=
  match month with
  | 2 => if isLeapYear year then 29 else 28
  | 4 | 6 | 9 | 11 => 30
  | _ => 31

def IsDate (year : Int) (month day : Nat) : Prop :=
  -262143 ≤ year ∧ year ≤ 262142 ∧ 1 ≤ month ∧ month ≤ 12 ∧ 1 ≤ day ∧ day ≤ daysInMonth year month

instance (year : Int) (month day : Nat) : Decidable (IsDate year month day) := by
  unfold IsDate; infer_instance

def IsClock (hour minute second nanosecond : Nat) : Prop :=
  hour < 24 ∧ minute < 60 ∧ second < 60 ∧
    (nanosecond < 1000000000 ∨ second = 59 ∧ nanosecond < 2000000000)

instance (hour minute second nanosecond : Nat) :
    Decidable (IsClock hour minute second nanosecond) := by
  unfold IsClock; infer_instance

structure Day where
  year : Int
  month : Nat
  day : Nat
  isDate : IsDate year month day
deriving DecidableEq

structure Timestamp where
  year : Int
  month : Nat
  day : Nat
  hour : Nat
  minute : Nat
  second : Nat
  nanosecond : Nat
  isDate : IsDate year month day
  isClock : IsClock hour minute second nanosecond
deriving DecidableEq

namespace Timestamp

def of? (year : Int) (month day hour minute second nanosecond : Nat) : Option Timestamp :=
  if hd : IsDate year month day then
    if hc : IsClock hour minute second nanosecond then
      some ⟨year, month, day, hour, minute, second, nanosecond, hd, hc⟩
    else none
  else none

def compare (a b : Timestamp) : Ordering :=
  (Ord.compare a.year b.year).then <| (Ord.compare a.month b.month).then <|
    (Ord.compare a.day b.day).then <| (Ord.compare a.hour b.hour).then <|
    (Ord.compare a.minute b.minute).then <| (Ord.compare a.second b.second).then <|
    Ord.compare a.nanosecond b.nanosecond

end Timestamp

def Day.midnight (d : Day) : Timestamp :=
  ⟨d.year, d.month, d.day, 0, 0, 0, 0, d.isDate, by decide⟩

/-- Writes a timestamp by a layout, and reads a whole text by one, as a timestamp or as a day. -/
class Calendar where
  format : String → Timestamp → String
  timestamp? : String → String → Option Timestamp
  day? : String → String → Option Day

namespace Timestamp

variable [Calendar]

def toText (t : Timestamp) : String :=
  Calendar.format "%Y-%m-%d %H:%M:%S" t

/-- The layouts are tried one after the other. -/
def ofText? (s : String) : Option Timestamp :=
  (Calendar.timestamp? "%Y-%m-%dT%H:%M:%S%.f" (trim s)).or <|
    (Calendar.timestamp? "%Y-%m-%d %H:%M:%S%.f" (trim s)).or <|
    (Calendar.day? "%Y-%m-%d" (trim s)).map Day.midnight

end Timestamp
end SheetTables
