import SheetTables.Matching.Builder

/-! # Errors of descriptions

What can be wrong with the description of a table or sheet, each cause with its wording. The
name of the table or sheet and the path of the field are put before the cause.
-/

namespace SheetTables

inductive ConfigError where
  | missingDirection
  | zeroDistance
  | emptyGroup
  | childrenOnLeaf
  | missingData
  | dataOnGroup
  | emptyFixedLayout
  | boundaryWithoutMixed
  | duplicateField (name : String)
  | emptyTable
  | emptySheet
deriving DecidableEq

def ConfigError.message : ConfigError → String
  | missingDirection => "Root field must declare a direction"
  | zeroDistance => "Distance must be at least 1"
  | emptyGroup => "Group field must have at least one child"
  | childrenOnLeaf => "Leaf field cannot have children"
  | missingData => "Leaf field must declare its data"
  | dataOnGroup => "Group field cannot declare data"
  | emptyFixedLayout => "Fixed data layout must cover at least one cell"
  | boundaryWithoutMixed => "Boundary matcher requires a mixed data layout"
  | duplicateField name => "Duplicate field '" ++ name ++ "'"
  | emptyTable => "Table must have at least one field"
  | emptySheet => "Sheet must have at least one table"

/-- What a description can fail of, names and texts that cannot be read included. -/
inductive DescriptionError where
  | unknownComparison (name : String)
  | unknownTextOperator (name : String)
  | unknownDirection (name : String)
  | unknownNecessity (name : String)
  | invalidRange (text : String)
  | matcher (e : MatcherError)
  | config (e : ConfigError)
  | namePattern (message : String)
  | within (context : String) (e : DescriptionError)
deriving DecidableEq

def DescriptionError.message : DescriptionError → String
  | unknownComparison name => "Invalid comparison operator '" ++ name ++ "'"
  | unknownTextOperator name => "Invalid string operator '" ++ name ++ "'"
  | unknownDirection name => "Invalid direction '" ++ name ++ "'"
  | unknownNecessity name => "Invalid necessity '" ++ name ++ "'"
  | invalidRange text => "Invalid range format '" ++ text ++ "'"
  | matcher e => e.message
  | config e => e.message
  | namePattern message => message
  | within context e => context ++ ": " ++ e.message

end SheetTables
