import SheetTables.Grid.Probe

/-! # Problems

What can go wrong with a sheet. Problems never stop an extraction: they are collected, and at
each level the name of what they belong to is put before them.
-/

namespace SheetTables

inductive Problem where
  | headerNotFound (path : String)
  | inconsistentGeometry (cell : String) (cause : ProbeError)
  | invalidValue (cell value message : String)
  | invalidRecord (index : Nat) (message : String)
  | emptySheet
  | sheetNotFound (layout : String)
  | tableNotFound (table : String)
  | within (context : String) (p : Problem)
deriving DecidableEq

inductive ProblemKind where
  | structural | geometry | validation
deriving DecidableEq

def ProblemKind.name : ProblemKind → String
  | structural => "structural"
  | geometry => "geometry"
  | validation => "validation"

namespace Problem

def message : Problem → String
  | headerNotFound path => "required header '" ++ path ++ "' not found"
  | inconsistentGeometry cell cause =>
    "inconsistent geometry at " ++ cell ++ ": " ++ cause.message
  | invalidValue cell value message =>
    "invalid value '" ++ value ++ "' at " ++ cell ++ ": " ++ message
  | invalidRecord index message => "invalid record " ++ toString index ++ ": " ++ message
  | emptySheet => "sheet is empty"
  | sheetNotFound layout => "no sheet matches config '" ++ layout ++ "'"
  | tableNotFound table => "required table '" ++ table ++ "' not found"
  | within context p => context ++ ": " ++ p.message

def kind : Problem → ProblemKind
  | headerNotFound _ | emptySheet | sheetNotFound _ | tableNotFound _ => .structural
  | inconsistentGeometry _ _ => .geometry
  | invalidValue _ _ _ | invalidRecord _ _ => .validation
  | within _ p => p.kind

def root : Problem → Problem
  | within _ p => p.root
  | p => p

end Problem

/-- Puts the name of a level before all its problems. -/
def prefixed (context : String) (ps : List Problem) : List Problem :=
  ps.map (.within context)

end SheetTables
