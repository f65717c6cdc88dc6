import SheetTables.Layout.Table
import SheetTables.Pattern.Engine

/-! # Sheet layouts

Which sheets are read, by their names, and which tables are looked for on them.
-/

namespace SheetTables

structure SheetSpec where
  name : String
  patterns : List String := []
  necessity : Necessity := .required
  tables : List TableLayout

structure SheetLayout where
  name : String
  patterns : List (String → Bool)
  necessity : Necessity
  tables : List TableLayout

def SheetSpec.build [NamePatterns] (s : SheetSpec) : Except DescriptionError SheetLayout :=
  if s.tables.isEmpty then .error (.within s.name (.config .emptySheet))
  else match s.patterns.mapM NamePatterns.read with
    | .ok patterns => .ok { name := s.name, patterns, necessity := s.necessity, tables := s.tables }
    | .error e => .error (.within s.name (.namePattern e))

/-- Without patterns every name is accepted. -/
def SheetLayout.accepts (s : SheetLayout) (name : String) : Bool :=
  s.patterns.isEmpty || s.patterns.any (· name)

end SheetTables
