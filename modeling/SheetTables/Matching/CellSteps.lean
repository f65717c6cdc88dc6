import SheetTables.Grid.Cell
import SheetTables.Matching.Builder

/-! # Conditions on cells and values

Leaves that read the text of a cell or value, the place of a cell, or the number of a value,
and the matchers of a single text that most headers need.
-/

namespace SheetTables

def compareSizes (a b : Nat) : Option Ordering := some (compare a b)

namespace Matcher
namespace Step

def cellText [PatternEngine] [Calendar] (op : TextOperator) (expected : String) : Step Cell :=
  .text op expected fun c => c.value.text?

def rowIndex (op : Comparison) (expected : Nat) : Step Cell :=
  .compare compareSizes op expected fun c => some c.range.top

def colIndex (op : Comparison) (expected : Nat) : Step Cell :=
  .compare compareSizes op expected fun c => some c.range.left

def columnName [PatternEngine] (op : TextOperator) (expected : String) : Step Cell :=
  .text op expected fun c => some c.columnName

def number (op : Comparison) (expected : Double) : Step Value :=
  .compare Double.compare? op expected Value.number?

def valueText [PatternEngine] [Calendar] (op : TextOperator) (expected : String) : Step Value :=
  .text op expected Value.text?

end Step

variable [PatternEngine] [Calendar]

def ofText (op : TextOperator) (expected : String) : Except MatcherError (Matcher Cell) :=
  ofSteps .and [.cellText op expected]

def equalTo (expected : String) : Except MatcherError (Matcher Cell) :=
  ofText .equals expected

end Matcher
end SheetTables
