import SheetTables.Pattern.Engine
import SheetTables.Text.Blank
import SheetTables.Text.Template
import SheetTables.Unicode.Lowercase

/-! # Operators

Comparisons of ordered subjects, and tests of texts against an operand. A pair without an order
satisfies no comparison but inequality, and a missing text satisfies no test.
-/

namespace SheetTables

inductive Comparison where
  | lt | le | gt | ge | eq | ne
deriving DecidableEq

namespace Comparison

def holds (op : Comparison) (order : Option Ordering) : Bool :=
  match op with
  | lt => order == some .lt
  | le => order == some .lt || order == some .eq
  | gt => order == some .gt
  | ge => order == some .gt || order == some .eq
  | eq => order == some .eq
  | ne => order != some .eq

def symbol : Comparison → String
  | lt => "<"
  | le => "<="
  | gt => ">"
  | ge => ">="
  | eq => "=="
  | ne => "!="

def ofName? (name : String) : Option Comparison :=
  match (trim name).toUpper with
  | "<" | "LT" => some lt
  | "<=" | "LE" => some le
  | ">" | "GT" => some gt
  | ">=" | "GE" => some ge
  | "==" | "=" | "EQ" => some eq
  | "!=" | "<>" | "NE" => some ne
  | _ => none

end Comparison

inductive TextOperator where
  | equals | equalsIgnoreCase | contains | matching | startsWith | endsWith
deriving DecidableEq

abbrev TextCondition := String → Bool

/-- A missing text satisfies no condition. -/
def TextCondition.test (c : TextCondition) (s : Option String) : Bool :=
  s.any c

namespace TextOperator

/-- The pattern that a text must match as a whole, made of one that may match a part. -/
def wholePattern (pattern : String) : String :=
  "^(?:" ++ pattern ++ ")$"

/-- Binds an operator to its operand; the engine may refuse a pattern. -/
def condition? [PatternEngine] (op : TextOperator) (expected : String) : Option TextCondition :=
  match op with
  | equals => some fun s => s == expected
  | equalsIgnoreCase => some fun s => lowercase s == lowercase expected
  | contains => some fun s => containsText s expected
  | matching => PatternEngine.compile? (wholePattern expected)
  | startsWith => some fun s => expected.toList.isPrefixOf s.toList
  | endsWith => some fun s => expected.toList.isSuffixOf s.toList

def name : TextOperator → String
  | equals => "equals"
  | equalsIgnoreCase => "equals_ignore_case"
  | contains => "contains"
  | matching => "matches"
  | startsWith => "starts_with"
  | endsWith => "ends_with"

/-- Names are read in any case, with hyphens or underscores. -/
def ofName? (name : String) : Option TextOperator :=
  match (trim name).toUpper.map fun c => if c = '-' then '_' else c with
  | "EQUALS" => some equals
  | "EQUALS_IGNORE_CASE" => some equalsIgnoreCase
  | "CONTAINS" => some contains
  | "MATCHES" | "REGEX" => some matching
  | "STARTS_WITH" => some startsWith
  | "ENDS_WITH" => some endsWith
  | _ => none

end TextOperator
end SheetTables
