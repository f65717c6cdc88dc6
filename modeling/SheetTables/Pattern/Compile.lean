import SheetTables.Pattern.Engine
import SheetTables.Pattern.Machine
import SheetTables.Pattern.Reader

/-! # Patterns as regular expressions

A pattern becomes a regular expression under its flags. Switches hold from where they stand to
the end of their group. A pattern is refused if it is not well written, if it could match inside
a character, or if its machine would be too large.
-/

namespace SheetTables.Pattern

structure Flags where
  ignoreCase : Bool := false
  multiLine : Bool := false
  dotAll : Bool := false
  swapGreed : Bool := false
  unicode : Bool := true
  crlf : Bool := false

/-- The extended layout matters to the reading of a pattern alone. -/
def Flags.switch (f : Flags) : Flag × Bool → Flags
  | (.ignoreCase, on) => { f with ignoreCase := on }
  | (.multiLine, on) => { f with multiLine := on }
  | (.dotAll, on) => { f with dotAll := on }
  | (.swapGreed, on) => { f with swapGreed := on }
  | (.unicode, on) => { f with unicode := on }
  | (.crlf, on) => { f with crlf := on }
  | (.extended, _) => f

def Flags.apply (f : Flags) (s : Switches) : Flags :=
  s.foldl Flags.switch f

def Flags.setMode (f : Flags) : SetMode := ⟨f.unicode, f.ignoreCase⟩

def Assertion.look (f : Flags) : Assertion → Look
  | .lineStart => if f.multiLine then (if f.crlf then .crlfStart else .lineStart) else .start
  | .lineStop => if f.multiLine then (if f.crlf then .crlfStop else .lineStop) else .stop
  | .textStart => .start
  | .textStop => .stop
  | .wordEdge => .word .any f.unicode
  | .notWordEdge => .word .none f.unicode
  | .wordStart => .word .start f.unicode
  | .wordStop => .word .stop f.unicode
  | .wordStartHalf => .word .startHalf f.unicode
  | .wordStopHalf => .word .stopHalf f.unicode

/-- Any character, or any but the ends of lines. A dot among bytes would match inside a
character. -/
def dotSet? (f : Flags) : Option CharSet :=
  if !f.unicode then none
  else if f.dotAll then some .all
  else if f.crlf then some ((CharSet.single '\n').union (.single '\r')).complement
  else some (CharSet.single '\n').complement

/-- A literal byte outside ASCII is no character. -/
def Literal.regex? (f : Flags) (l : Literal) : Option (Regex Atom) :=
  if !f.unicode && l.isByte && 128 ≤ l.char.toNat then none
  else some (Regex.ofSet (f.setMode.fold (.single l.char)))

/-- The alternatives that a part of a pattern stands for, and the flags that hold after it. -/
def Expr.choices? (f : Flags) : Expr → Option (List (Regex Atom) × Flags)
  | .empty => some ([.empty], f)
  | .switches s => some ([.empty], f.apply s)
  | .literal l => (l.regex? f).map fun r => ([r], f)
  | .dot => (dotSet? f).map fun s => ([Regex.ofSet s], f)
  | .assertion a => some ([.atom (.look (a.look f))], f)
  | .set e => (e.set? f.setMode).map fun s => ([Regex.ofSet s], f)
  | .repeated e least most greedy =>
    match e.choices? f with
    | some (rs, g) =>
      some ([.repetition (.alternation rs) least most (greedy != g.swapGreed)], g)
    | none => none
  | .group s e =>
    match e.choices? (f.apply s) with
    | some (rs, _) => some ([.alternation rs], f)
    | none => none
  | .capture index e =>
    match e.choices? f with
    | some (rs, _) => some ([.capture index (.alternation rs)], f)
    | none => none
  | .concat a b =>
    match a.choices? f with
    | some (rs, g) =>
      match b.choices? g with
      | some (ss, h) => some ([.concat [.alternation rs, .alternation ss]], h)
      | none => none
    | none => none
  | .alternate a b =>
    match a.choices? f with
    | some (rs, g) =>
      match b.choices? g with
      | some (ss, h) => some (rs ++ ss, h)
      | none => none
    | none => none

def compile? (pattern : String) : Option (Regex Atom) :=
  match read? pattern with
  | none => none
  | some e =>
    match e.choices? {} with
    | some (rs, _) =>
      let r := Regex.alternation rs
      if Machine.fits r then some r else none
    | none => none

instance : PatternEngine where
  compile? pattern := (compile? pattern).map Regex.matchesIn

end SheetTables.Pattern
