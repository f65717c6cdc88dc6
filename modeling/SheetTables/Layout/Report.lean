import SheetTables.Layout.FieldTable
import SheetTables.Text.Quoted

/-! # Reports of layouts

How a settled table shows in a report: every part under its name, with the validators counted.
-/

namespace SheetTables

def reportParts (name : String) (parts : List (String × String)) : String :=
  name ++ " \x7b " ++ ", ".intercalate (parts.map fun p => p.1 ++ ": " ++ p.2) ++ " \x7d"

def reportList (items : List String) : String :=
  "[" ++ ", ".intercalate items ++ "]"

def reportOption (item : Option String) : String :=
  match item with
  | some s => "Some(" ++ s ++ ")"
  | none => "None"

def reportId (id : Nat) : String :=
  "FieldId(" ++ toString id ++ ")"

def reportBool (b : Bool) : String := if b then "true" else "false"

def DataLayout.report : DataLayout → String
  | fixed count => "Fixed(" ++ toString count ++ ")"
  | unfixed => "Unfixed"
  | mixed => "Mixed"

def DataSpec.report (d : DataSpec) : String :=
  reportParts "DataConfig"
    [("layout", d.layout.report), ("matcher", reportBool d.matcher.isSome),
     ("boundary", reportBool d.boundary.isSome), ("validators", toString d.validators.length)]

def Necessity.report : Necessity → String
  | required => "Required"
  | optional => "Optional"

def Role.report : Role → String
  | group => "Group"
  | leaf => "Leaf"

def Direction.report : Direction → String
  | up => "Up"
  | down => "Down"
  | left => "Left"
  | right => "Right"

def FieldEntry.report (e : FieldEntry) : String :=
  let f := e.field
  reportParts "FieldConfig"
    [("id", reportId f.id), ("name", quoted f.name), ("path", quoted f.path),
     ("matcher", f.matcher.report), ("necessity", f.necessity.report), ("role", f.role.report),
     ("direction", f.direction.report), ("distance", toString f.distance),
     ("parent", reportOption (f.parent.map reportId)),
     ("children", reportList (e.children.map reportId)),
     ("data", reportOption (f.data?.map DataSpec.report))]

def TableSpec.report (t : TableSpec) (fields : FieldTable) : String :=
  reportParts "TableConfig"
    [("name", quoted t.name), ("necessity", t.necessity.report),
     ("fields", reportList (fields.entries.map FieldEntry.report)),
     ("validators", toString t.validators.length)]

end SheetTables
