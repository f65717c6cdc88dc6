import SheetTables.Calendar.Layout
import SheetTables.Number.Numeral

/-! # The Gregorian calendar

Layouts are followed part by part from the left. When a text is read, blanks may stand before each
number, numbers need not be padded, a year with a sign may have any number of digits, and a
fraction of a second is cut after nine digits.
-/

namespace SheetTables.Calendar

def partsOf? : List Char → Option (List Part)
  | [] => some []
  | '%' :: 'Y' :: s => (partsOf? s).map (.year :: ·)
  | '%' :: '.' :: 'f' :: s => (partsOf? s).map (.fraction :: ·)
  | '%' :: '%' :: s => (partsOf? s).map (.mark '%' rfl :: ·)
  | '%' :: c :: s =>
    match Slot.ofSymbol? c with
    | some slot => (partsOf? s).map (.slot slot :: ·)
    | none => none
  | ['%'] => none
  | c :: s =>
    (partsOf? s).map ((if h : isBlank c then .blanks else .mark c (by simpa using h)) :: ·)

/-- A number of at most `width` digits at the head of a text, and what follows it. -/
def number? (width : Nat) (s : List Char) : Option (Nat × List Char) :=
  let digits := (s.take width).takeWhile Char.isDigit
  if digits.isEmpty then none else some (digitsFrom 0 digits, s.drop digits.length)

/-- A year of at most four digits, or one of any length after a sign. -/
def year? : List Char → Option (Int × List Char)
  | '-' :: s => (number? s.length s).map fun (n, rest) => (-(n : Int), rest)
  | '+' :: s => (number? s.length s).map fun (n, rest) => ((n : Int), rest)
  | s => (number? 4 s).map fun (n, rest) => ((n : Int), rest)

def fraction? : List Char → Option (Option Nat × List Char)
  | '.' :: s =>
    let digits := s.takeWhile Char.isDigit
    if digits.isEmpty then none
    else
      let kept := digits.take 9
      some (some (digitsFrom 0 kept * Nat.pow 10 (9 - kept.length)), s.drop digits.length)
  | s => some (none, s)

def agreed? {α : Type} [DecidableEq α] (known : Option α) (found : α × List Char) :
    Option (α × List Char) :=
  if known.all (· = found.1) then some found else none

def Part.read? (part : Part) (d : Draft) (s : List Char) : Option (Draft × List Char) :=
  match part with
  | .year =>
    ((year? (trimLeft s)).bind (agreed? d.year)).map fun (n, rest) => ({ d with year := n }, rest)
  | .slot place =>
    ((number? 2 (trimLeft s)).bind (agreed? (d.slots place))).map fun (n, rest) =>
      (d.put place n, rest)
  | .mark c _ => match s with
    | a :: rest => if a = c then some (d, rest) else none
    | [] => none
  | .blanks => some (d, trimLeft s)
  | .fraction =>
    (fraction? s).map fun (n, rest) => ({ d with nanosecond := n.or d.nanosecond }, rest)

def read? : List Part → Draft → List Char → Option Draft
  | [], d, s => if s.isEmpty then some d else none
  | part :: layout, d, s =>
    match part.read? d s with
    | some (d, rest) => read? layout d rest
    | none => none

/-- A layout that is none writes nothing, and no text is read by it. -/
instance : Calendar where
  format layout t :=
    String.join (((partsOf? layout.toList).getD []).map fun part => part.text t)
  timestamp? layout s :=
    (partsOf? layout.toList).bind fun parts => (read? parts {} s.toList).bind Draft.timestamp?
  day? layout s :=
    (partsOf? layout.toList).bind fun parts => (read? parts {} s.toList).bind Draft.day?

end SheetTables.Calendar
