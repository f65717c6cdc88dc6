import SheetTables.Extraction.Table
import SheetTables.Grid.Sheet
import SheetTables.Layout.Sheet

/-! # Reading sheets and documents

All tables of a sheet, and all sheets of a document, with their problems in order, each under
the name of the table layout and of the sheet that it belongs to.
-/

namespace SheetTables

structure SheetResult where
  layout : SheetLayout
  sheet : String
  tables : List Table
  problems : List Problem

namespace SheetResult

def isOk (r : SheetResult) : Bool := r.problems.isEmpty

def tablesNamed (r : SheetResult) (name : String) : List Table :=
  r.tables.filter (·.name == name)

def table? (r : SheetResult) (name : String) : Option Table :=
  (r.tablesNamed name).head?

def records (r : SheetResult) (name : String) : List Record :=
  (r.tablesNamed name).flatMap (·.records)

end SheetResult

/-- What one table layout finds, and its problems under its name. A required table that is not
there is a problem by itself unless its anchor is one. -/
def readTables [Calendar] (g : Grid) (criteria : Criteria) (t : TableLayout) :
    List Table × List Problem :=
  let (tables, problems) := recognize t g criteria
  let absent :=
    if tables.isEmpty && problems.isEmpty && t.necessity.isRequired then
      [Problem.tableNotFound t.name]
    else []
  (tables, absent ++ prefixed t.name problems ++ tables.flatMap fun k => prefixed t.name k.problems)

def readSheet [Calendar] (layout : SheetLayout) (g : Grid) (criteria : Criteria) : SheetResult :=
  if g.extent?.isNone then
    { layout
      sheet := g.name
      tables := []
      problems := if layout.necessity.isRequired then [.emptySheet] else [] }
  else
    let found := layout.tables.map (readTables g criteria)
    { layout
      sheet := g.name
      tables := found.flatMap (·.1)
      problems := found.flatMap (·.2) }

structure WorkbookResult where
  name : String
  sheets : List SheetResult
  problems : List Problem

namespace WorkbookResult

def isOk (r : WorkbookResult) : Bool := r.problems.isEmpty

def sheet? (r : WorkbookResult) (name : String) : Option SheetResult :=
  r.sheets.find? (·.sheet == name)

def tablesNamed (r : WorkbookResult) (name : String) : List Table :=
  r.sheets.flatMap (·.tablesNamed name)

end WorkbookResult

def readAccepted [Calendar] (book : Workbook) (criteria : Criteria) (layout : SheetLayout) :
    List SheetResult × List Problem :=
  let results := (book.sheets.filter fun s => layout.accepts s.name).map fun s =>
    readSheet layout s.grid criteria
  let absent :=
    if results.isEmpty && layout.necessity.isRequired then [Problem.sheetNotFound layout.name]
    else []
  (results, results.flatMap (fun r => prefixed r.sheet r.problems) ++ absent)

def readWorkbook [Calendar] (layouts : List SheetLayout) (book : Workbook) (criteria : Criteria) :
    WorkbookResult :=
  let found := layouts.map (readAccepted book criteria)
  { name := book.name
    sheets := found.flatMap (·.1)
    problems := found.flatMap (·.2) }

end SheetTables
